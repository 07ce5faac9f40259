import Chip8.Debugger.Speed
import Chip8.Proofs.Debugger.Stretch
import Chip8.Proofs.Number.Quotient

namespace Chip8.Debugger

theorem stepsPerFrame_pos (hz : Int) : 0 < stepsPerFrame hz := by
  unfold stepsPerFrame
  omega

theorem frameInterval_of_pos (hz : Int) (h : 1 ≤ hz) :
    frameInterval hz = .ok (Number.quotient (stepsPerFrame hz) hz) := by
  apply Number.nearest_of_le
  · have := stepsPerFrame_pos hz
    omega
  · unfold stepsPerFrame
    omega

/-- The frames that a host has drawn once it comes to one more. -/
def Trace.framesWith (t : Trace) (host : Host) (s : Session) : Array Session :=
  if host.draws then t.frames.push s else t.frames

theorem Trace.draw_cases (t : Trace) (host : Host) (s : Session) :
    (t.draw host s).1.frames = t.framesWith host s ∧
      ((t.draw host s).2 = true → ∃ k, host.interruptsFrame k = true) := by
  unfold Trace.draw Trace.framesWith
  split
  · exact ⟨rfl, fun h => ⟨_, h⟩⟩
  · exact ⟨rfl, fun h => absurd h Bool.false_ne_true⟩

namespace Session

/-- The steps that a frame of a limited run may take after `steps` of them. -/
def frameBudget (hz : Int) (limit steps : Nat) : Nat := min (stepsPerFrame hz) (limit - steps)

theorem frame_cases (s : Session) (hz : Int) (limit steps : Nat) :
    (s.frame hz (some limit) steps).session.Alike (s.stretch (frameBudget hz limit steps)).session ∧
    ((∃ stop, (s.stretch (frameBudget hz limit steps)).stop = some stop ∧
        (s.frame hz (some limit) steps).sequel = .ended) ∨
      (s.stretch (frameBudget hz limit steps)).stop = none ∧
        (s.frame hz (some limit) steps).steps = steps + frameBudget hz limit steps ∧
        (s.frame hz (some limit) steps).sequel =
          if limit ≤ steps + frameBudget hz limit steps then .limitReached else .goesOn) := by
  have ha : (s.remember.stretch (frameBudget hz limit steps)).Alike
      (s.stretch (frameBudget hz limit steps)) :=
    stretchFrom_alike _ _ (Alike.refl s).remember 0 _
  have hran := stretchFrom_ran s.remember 0 (frameBudget hz limit steps)
  simp only [frame]
  rw [← ha.stop]
  change (s.remember.stretch _).stop = none → (s.remember.stretch _).ran = _ at hran
  unfold frameBudget at ha hran ⊢
  cases hs : (s.remember.stretch (min (stepsPerFrame hz) (limit - steps))).stop with
  | some stop => exact ⟨ha.session.stoppedBy _ _, Or.inl ⟨stop, rfl, rfl⟩⟩
  | none =>
    refine ⟨ha.session.notify _, Or.inr ⟨rfl, ?_, ?_⟩⟩
    · dsimp only
      rw [hran hs, Nat.zero_add]
    · dsimp only
      rw [hran hs, Nat.zero_add]
      simp only [decide_eq_true_eq]

/-- What a run comes to with its next frame, and what it has drawn by then. -/
inductive AfterFrame (host : Host) (hz : Int) (interval : Float) (limit : Option Nat)
    (patience steps : Nat) (s : Session) (t : Trace) : SpeedRun → Prop where
  /-- The clock cannot be read, and no frame is run. -/
  | unread (t' : Trace) (k : Nat) (why : Number.Failure) (hclock : host.clock k = .error why) :
    AfterFrame host hz interval limit patience steps s t ⟨s, t', .failed why⟩
  /-- The program stops within the frame. -/
  | ended (t' : Trace) (ht : t'.frames = t.frames) (h : (s.frame hz limit steps).sequel = .ended) :
    AfterFrame host hz interval limit patience steps s t
      ((s.frame hz limit steps).session.close host hz (s.frame hz limit steps).steps t')
  /-- The drawing of the frame is interrupted, or the pause after it. -/
  | interrupted (t' : Trace) (h : (s.frame hz limit steps).sequel ≠ .ended)
    (hi : ∃ k, host.interruptsFrame k = true ∨ host.interruptsPause k = true) :
    AfterFrame host hz interval limit patience steps s t
      ⟨(s.frame hz limit steps).session.paused (s.frame hz limit steps).steps hz, t', .paused⟩
  | limitReached (t' : Trace) (ht : t'.frames = t.framesWith host (s.frame hz limit steps).session)
    (h : (s.frame hz limit steps).sequel = .limitReached) :
    AfterFrame host hz interval limit patience steps s t
      (((s.frame hz limit steps).session.notify (.stepLimit (s.frame hz limit steps).steps)).close
        host hz (s.frame hz limit steps).steps t')
  /-- The clock cannot be read when the frame is over. -/
  | unreadAfter (t' : Trace) (h : (s.frame hz limit steps).sequel = .goesOn) (k : Nat)
    (why : Number.Failure) (hclock : host.clock k = .error why) :
    AfterFrame host hz interval limit patience steps s t
      ⟨(s.frame hz limit steps).session, t', .failed why⟩
  | goesOn (t' : Trace) (ht : t'.frames = t.framesWith host (s.frame hz limit steps).session)
    (h : (s.frame hz limit steps).sequel = .goesOn) :
    AfterFrame host hz interval limit patience steps s t
      (frames host hz interval limit patience (s.frame hz limit steps).steps
        (s.frame hz limit steps).session t')

theorem frames_afterFrame (host : Host) (hz : Int) (interval : Float) (limit : Option Nat)
    (patience steps : Nat) (s : Session) (t : Trace) :
    AfterFrame host hz interval limit patience steps s t
      (frames host hz interval limit (patience + 1) steps s t) := by
  simp only [frames, Trace.read]
  cases hstart : host.clock t.readings with
  | error why => exact .unread _ _ why hstart
  | ok start =>
    dsimp only
    have hdraw := Trace.draw_cases { t with readings := t.readings + 1 } host
      (s.frame hz limit steps).session
    generalize Trace.draw { t with readings := t.readings + 1 } host
      (s.frame hz limit steps).session = drawn at hdraw ⊢
    obtain ⟨t', interrupted⟩ := drawn
    obtain ⟨hframes, hinterrupt⟩ := hdraw
    cases hs : (s.frame hz limit steps).sequel with
    | ended => exact .ended _ rfl hs
    | limitReached =>
      have hne : (s.frame hz limit steps).sequel ≠ .ended := by simp [hs]
      cases interrupted with
      | true =>
        obtain ⟨k, hk⟩ := hinterrupt rfl
        exact .interrupted t' hne ⟨k, Or.inl hk⟩
      | false => exact .limitReached t' hframes hs
    | goesOn =>
      have hne : (s.frame hz limit steps).sequel ≠ .ended := by simp [hs]
      cases interrupted with
      | true =>
        obtain ⟨k, hk⟩ := hinterrupt rfl
        exact .interrupted t' hne ⟨k, Or.inl hk⟩
      | false =>
        simp only [reduceCtorEq, if_false]
        cases hnow : host.clock t'.readings with
        | error why => exact .unreadAfter _ hs _ why hnow
        | ok now =>
          dsimp only [Trace.pause]
          split
          · cases hpause : host.interruptsPause t'.pauses.size with
            | true => exact .interrupted _ hne ⟨_, Or.inr hpause⟩
            | false => exact .goesOn _ hframes hs
          · exact .goesOn _ hframes hs

/-- A run at speed has been interrupted, or it has stopped where a session stands. -/
def EndsAt (r : SpeedRun) (s : Session) : Prop :=
  r.ending = .paused ∨ r.ending = .stopped ∧ r.session.Alike s

theorem EndsAt.trans {r : SpeedRun} {s u : Session} (h : EndsAt r s) (hu : s.Alike u) :
    EndsAt r u :=
  h.imp_right fun hs => ⟨hs.1, hs.2.trans hu⟩

theorem close_endsAt (s u : Session) (host : Host) (hz : Int) (steps : Nat) (t : Trace)
    (h : s.Alike u) : EndsAt (s.close host hz steps t) u := by
  unfold close
  split
  · exact Or.inl rfl
  · exact Or.inr ⟨rfl, h⟩

/-- However a run is divided into frames, it goes where one stretch of all its steps goes. -/
theorem frames_endsAt (host : Host) (clock : Nat → Float)
    (hclock : ∀ k, host.clock k = .ok (clock k)) (hz : Int) (interval : Float)
    (limit patience steps : Nat) (s : Session) (t : Trace) (hp : limit - steps < patience) :
    EndsAt (frames host hz interval (some limit) patience steps s t)
      (s.stretch (limit - steps)).session := by
  -- The induction is on the frames still allowed, of which there are more than steps still to take.
  induction patience generalizing steps s t with
  | zero => omega
  | succ patience ih =>
    obtain ⟨ha, hcases⟩ := frame_cases s hz limit steps
    have hsplit : limit - steps =
        frameBudget hz limit steps + (limit - (steps + frameBudget hz limit steps)) := by
      unfold frameBudget
      omega
    have hafter := frames_afterFrame host hz interval (some limit) patience steps s t
    generalize frames host hz interval (some limit) (patience + 1) steps s t = r at hafter ⊢
    have hgoesOn (h : (s.frame hz (some limit) steps).sequel ≠ .ended) := by
      refine hcases.resolve_left ?_
      rintro ⟨-, -, hended⟩
      exact h hended
    cases hafter with
    | unread t' k why hk => simp [hclock] at hk
    | interrupted => exact Or.inl rfl
    | unreadAfter t' h k why hk => simp [hclock] at hk
    | ended t' ht h =>
      rcases hcases with ⟨stop, hstop, -⟩ | ⟨-, -, hsequel⟩
      · -- Whatever stops the program in this frame stops the whole stretch there.
        rw [hsplit, stretch_add_of_stop s _ _ stop hstop]
        exact close_endsAt _ _ _ _ _ _ ha
      · rw [h] at hsequel
        split at hsequel <;> cases hsequel
    | limitReached t' ht h =>
      obtain ⟨hstop, -, hsequel⟩ := hgoesOn (by simp [h])
      rw [h] at hsequel
      have hlast : limit ≤ steps + frameBudget hz limit steps := by
        by_contra hlater
        rw [if_neg hlater] at hsequel
        cases hsequel
      have hrest : limit - (steps + frameBudget hz limit steps) = 0 := by omega
      rw [hsplit, stretch_add_of_none s _ _ hstop, hrest]
      exact close_endsAt _ _ _ _ _ _ (ha.notify _)
    | goesOn t' ht h =>
      obtain ⟨hstop, hsteps, hsequel⟩ := hgoesOn (by simp [h])
      rw [h] at hsequel
      have hlater : ¬limit ≤ steps + frameBudget hz limit steps := by
        intro hlast
        rw [if_pos hlast] at hsequel
        cases hsequel
      -- A frame that does not reach the limit has all its steps, and so at least one.
      have hbudget : 0 < frameBudget hz limit steps := by
        have := stepsPerFrame_pos hz
        unfold frameBudget
        omega
      have hrest := stretchFrom_alike _ _ ha 0 (limit - (steps + frameBudget hz limit steps))
      rw [hsplit, stretch_add_of_none s _ _ hstop, hsteps]
      exact (ih (steps + frameBudget hz limit steps) (s.frame hz (some limit) steps).session t'
        (by omega)).trans hrest.session

theorem runAtSpeed_blocked (s : Session) (host : Host) (hz : Int) (limit : Option Nat) (t : Trace)
    (reason : Notice) (h : blocked? s.machine = some reason) :
    s.runAtSpeed host hz limit t = ⟨s.notify reason, t, .stopped⟩ := by
  simp only [runAtSpeed, h]

theorem draw_uninterrupted (t : Trace) (host : Host) (h : ∀ k, host.interruptsFrame k = false)
    (s : Session) : (t.draw host s).2 = false := by
  unfold Trace.draw
  split
  · exact h _
  · rfl

theorem close_uninterrupted (s : Session) (host : Host) (h : ∀ k, host.interruptsFrame k = false)
    (hz : Int) (steps : Nat) (t : Trace) : (s.close host hz steps t).ending = .stopped := by
  have hd := draw_uninterrupted t host h s
  unfold close
  split
  · next heq => simp [heq] at hd
  · rfl

theorem frames_uninterrupted (host : Host) (hframe : ∀ k, host.interruptsFrame k = false)
    (hpause : ∀ k, host.interruptsPause k = false) (hz : Int) (interval : Float)
    (limit : Option Nat) (patience steps : Nat) (s : Session) (t : Trace) :
    (frames host hz interval limit patience steps s t).ending ≠ .paused := by
  induction patience generalizing steps s t with
  | zero => simp [frames]
  | succ patience ih =>
    have hafter := frames_afterFrame host hz interval limit patience steps s t
    generalize frames host hz interval limit (patience + 1) steps s t = r at hafter ⊢
    cases hafter with
    | unread => simp
    | ended => simp [close_uninterrupted _ host hframe]
    | interrupted t' h hi =>
      obtain ⟨k, hk⟩ := hi
      simp [hframe, hpause] at hk
    | limitReached => simp [close_uninterrupted _ host hframe]
    | unreadAfter => simp
    | goesOn t' => exact ih _ _ t'

theorem runAtSpeed_uninterrupted (s : Session) (host : Host)
    (hframe : ∀ k, host.interruptsFrame k = false) (hpause : ∀ k, host.interruptsPause k = false)
    (hz : Int) (limit : Option Nat) (t : Trace) :
    (s.runAtSpeed host hz limit t).ending ≠ .paused := by
  unfold runAtSpeed
  split
  · simp
  · dsimp only
    split
    · simp
    · exact frames_uninterrupted host hframe hpause _ _ _ _ _ _ _

theorem resume_alike (s : Session) (limit : Nat) (h : blocked? s.machine = none) :
    (s.resume limit).Alike (s.stretch limit).session := by
  have ha : (s.remember.stretch limit).Alike (s.stretch limit) :=
    stretchFrom_alike _ _ (Alike.refl s).remember 0 limit
  simp only [resume, h, Int.toNat_natCast]
  cases (s.remember.stretch limit).stop with
  | some stop => exact ha.session.stoppedBy _ stop
  | none => exact ha.session.notify _

/-- A run at speed that the user does not interrupt comes to its end, and there the program stands
where it stands after running on at the same clock rate for as many instructions: frames, redraws
and pauses change neither where a run stops nor when the timers tick. -/
theorem runAtSpeed_agrees_resume (s : Session) (host : Host) (clock : Nat → Float)
    (hclock : ∀ k, host.clock k = .ok (clock k)) (hz : Int) (hhz : 1 ≤ hz) (limit : Nat) (t : Trace)
    (hrun : (s.runAtSpeed host hz (some limit) t).ending ≠ .paused) :
    (s.runAtSpeed host hz (some limit) t).ending = .stopped ∧
      (s.runAtSpeed host hz (some limit) t).session.machine =
        ({ s with hz := hz }.resume limit).machine ∧
      (s.runAtSpeed host hz (some limit) t).session.sinceTick =
        ({ s with hz := hz }.resume limit).sinceTick := by
  cases hb : blocked? s.machine with
  | some reason =>
    have hresume : { s with hz := hz }.resume limit = { s with hz := hz }.notify reason := by
      simp only [resume, hb]
    rw [runAtSpeed_blocked s host hz _ t reason hb, hresume]
    exact ⟨rfl, rfl, rfl⟩
  | none =>
    have hframes := frames_endsAt host clock hclock hz (Number.quotient (stepsPerFrame hz) hz) limit
      (limit + 1) 0 { s with hz := hz } t (by omega)
    have hresume := resume_alike { s with hz := hz } limit hb
    simp only [runAtSpeed, hb, frameInterval_of_pos hz hhz] at hrun ⊢
    obtain ⟨hstopped, ha⟩ := hframes.resolve_left hrun
    exact ⟨hstopped, ha.machine.trans hresume.machine.symm,
      ha.sinceTick.trans hresume.sinceTick.symm⟩

def frozenHost : Host where
  draws := true
  clock _ := .ok 0
  interruptsFrame _ := false
  interruptsPause _ := false
  patience := 0

/-- A program that jumps to itself, run for thirteen instructions in frames of four, with the timers
counting down every second one. -/
theorem runAtSpeed_agrees_resume_loop :
    let s : Session := { machine := { surface := .standard, random := .zeros,
                                      memory := Memory.initial.write 0x200 [0x12, 0x00] } }
    ((∀ k, frozenHost.clock k = .ok ((fun _ => 0) k)) ∧ (1 : Int) ≤ 120 ∧
      (s.runAtSpeed frozenHost 120 (some 13) {}).ending ≠ .paused) ∧
    (s.runAtSpeed frozenHost 120 (some 13) {}).ending = .stopped ∧
      (s.runAtSpeed frozenHost 120 (some 13) {}).session.machine =
        ({ s with hz := 120 }.resume (13 : Nat)).machine ∧
      (s.runAtSpeed frozenHost 120 (some 13) {}).session.sinceTick =
        ({ s with hz := 120 }.resume (13 : Nat)).sinceTick := by
  intro s
  have hrun := runAtSpeed_uninterrupted s frozenHost (fun _ => rfl) (fun _ => rfl) 120 (some 13) {}
  exact ⟨⟨fun _ => rfl, by decide, hrun⟩,
    runAtSpeed_agrees_resume s frozenHost (fun _ => 0) (fun _ => rfl) 120 (by decide) 13 {} hrun⟩

end Session

end Chip8.Debugger
