import Chip8.Proofs.Debugger.Counts

namespace Chip8.Debugger

namespace Session

/-- From one session to another no more than so many instructions have been executed. -/
def FollowsWithin (n : Nat) (s s' : Session) : Prop :=
  s.machine.cycles ≤ s'.machine.cycles ∧ s'.machine.cycles ≤ s.machine.cycles + n

namespace FollowsWithin

variable {n k : Nat} {s s' s'' : Session}

theorem refl (n : Nat) (s : Session) : FollowsWithin n s s := ⟨Nat.le_refl _, Nat.le_add_right _ _⟩

theorem trans (h : FollowsWithin n s s') (h' : FollowsWithin k s' s'') :
    FollowsWithin (n + k) s s'' := by
  unfold FollowsWithin at h h' ⊢
  omega

theorem mono (h : FollowsWithin n s s') (hle : n ≤ k) : FollowsWithin k s s' :=
  ⟨h.1, Nat.le_trans h.2 (Nat.add_le_add_left hle _)⟩

theorem advance (s : Session) : FollowsWithin 1 s s.advance.2 := by
  cases hb : blocked? s.machine with
  | some reason =>
    rw [advance_of_blocked s reason hb]
    exact refl 1 s
  | none =>
    unfold FollowsWithin
    rcases advance_cases s hb with ⟨-, hc⟩ | ⟨-, hc⟩ <;> omega

theorem stretchFrom (s : Session) (ran limit : Nat) :
    FollowsWithin limit s (s.stretchFrom ran limit).session := by
  induction limit generalizing ran s with
  | zero => exact refl 0 s
  | succ limit ih =>
    rw [stretchFrom_next]
    split
    · rw [Nat.add_comm]
      exact (advance s).trans (ih s.advance.2 (ran + 1))
    · exact (advance s).mono (Nat.le_add_left 1 limit)

theorem frame (s : Session) (hz : Int) (limit : Option Nat) (steps : Nat) :
    FollowsWithin (stepsPerFrame hz) s (s.frame hz limit steps).session := by
  obtain ⟨budget, hle, hstopped, hrunning⟩ := frame_stretch s hz limit steps
  have hstretch : FollowsWithin (stepsPerFrame hz) s (s.remember.stretch budget).session :=
    (stretchFrom s.remember 0 budget).mono hle
  cases hs : (s.remember.stretch budget).stop with
  | some stop =>
    rw [hstopped stop hs, FollowsWithin, stoppedBy_machine]
    exact hstretch
  | none =>
    obtain ⟨sequel, -, heq⟩ := hrunning hs
    rw [heq]
    exact hstretch

end FollowsWithin

/-- What a run has drawn since an earlier moment, at which it stood at a session: the last frame
shows its end, and from the session to the first frame and from each to the next no more than `n`
instructions have been executed. -/
def ShowsEnd (n : Nat) (s : Session) (t : Trace) (r : SpeedRun) : Prop :=
  ∃ frames : List Session, r.trace.frames.toList = t.frames.toList ++ frames ∧
    frames.getLast? = some r.session ∧ (s :: frames).IsChain (FollowsWithin n)

namespace ShowsEnd

variable {n : Nat} {s s' : Session} {t : Trace} {r : SpeedRun}

theorem single (h : FollowsWithin n s r.session)
    (ht : r.trace.frames = t.frames.push r.session) : ShowsEnd n s t r := by
  refine ⟨[r.session], ?_, rfl, ?_⟩
  · rw [ht, Array.toList_push]
  · exact .cons_cons h (.singleton _)

theorem cons {t' : Trace} (h : FollowsWithin n s s') (ht : t'.frames = t.frames.push s')
    (hr : ShowsEnd n s' t' r) : ShowsEnd n s t r := by
  obtain ⟨frames, htrace, hlast, hchain⟩ := hr
  refine ⟨s' :: frames, ?_, ?_, ?_⟩
  · rw [htrace, ht, Array.toList_push, List.append_assoc, List.singleton_append]
  · rw [List.getLast?_cons, hlast, Option.getD_some]
  · exact .cons_cons h hchain

theorem of_machine (hr : ShowsEnd n s t r) (hm : s'.machine = s.machine) : ShowsEnd n s' t r := by
  obtain ⟨frames, htrace, hlast, hchain⟩ := hr
  refine ⟨frames, htrace, hlast, ?_⟩
  cases hchain with
  | singleton => exact .singleton s'
  | cons_cons h hrest =>
    refine .cons_cons ?_ hrest
    rw [FollowsWithin, hm]
    exact h

end ShowsEnd

theorem close_showsEnd (n : Nat) (s r : Session) (host : Host) (hd : host.draws = true) (hz : Int)
    (steps : Nat) (t : Trace) (h : FollowsWithin n s r)
    (hstop : (r.close host hz steps t).ending = .stopped) :
    ShowsEnd n s t (r.close host hz steps t) := by
  unfold close at hstop ⊢
  cases hi : host.interruptsFrame t.frames.size with
  | true => simp [Trace.draw, hd, hi] at hstop
  | false =>
    simp only [Trace.draw, hd, hi, if_true]
    exact .single h rfl

theorem frames_showsEnd (host : Host) (hd : host.draws = true) (hz : Int) (interval : Float)
    (limit : Option Nat) (patience steps : Nat) (s : Session) (t : Trace)
    (hstop : (frames host hz interval limit patience steps s t).ending = .stopped) :
    ShowsEnd (stepsPerFrame hz) s t (frames host hz interval limit patience steps s t) := by
  induction patience generalizing steps s t with
  | zero => simp [frames] at hstop
  | succ patience ih =>
    have hf := FollowsWithin.frame s hz limit steps
    have hwith : t.framesWith host (s.frame hz limit steps).session =
        t.frames.push (s.frame hz limit steps).session := if_pos hd
    have hafter := frames_afterFrame host hz interval limit patience steps s t
    generalize frames host hz interval limit (patience + 1) steps s t = r at hstop hafter ⊢
    cases hafter with
    | unread => cases hstop
    | interrupted => cases hstop
    | unreadAfter => cases hstop
    | ended t' ht =>
      obtain ⟨frames, htrace, hlast, hchain⟩ := close_showsEnd _ s _ host hd hz _ t' hf hstop
      exact ⟨frames, by rw [htrace, ht], hlast, hchain⟩
    | limitReached t' ht =>
      -- The notice of the limit makes a frame of its own, with no instruction before it.
      have hsame : FollowsWithin (stepsPerFrame hz) (s.frame hz limit steps).session
          ((s.frame hz limit steps).session.notify (.stepLimit (s.frame hz limit steps).steps)) :=
        .refl _ _
      exact .cons hf (ht.trans hwith) (close_showsEnd _ _ _ host hd hz _ t' hsame hstop)
    | goesOn t' ht => exact .cons hf (ht.trans hwith) (ih _ _ t' hstop)

/-- A run at speed that is drawn, and that comes to its end by itself, has drawn its end last: that
frame shows the session as the run leaves it. Between its start and the first frame, and from each
frame to the next, no more instructions are executed than the rate gives a frame. -/
theorem last_frame_shows_end (s : Session) (hb : blocked? s.machine = none) (host : Host)
    (hd : host.draws = true) (hz : Int) (limit : Option Int) (t : Trace)
    (hstop : (s.runAtSpeed host hz (limit.map Int.toNat) t).ending = .stopped) :
    ShowsEnd (stepsPerFrame hz) s t (s.runAtSpeed host hz (limit.map Int.toNat) t) := by
  unfold runAtSpeed at hstop ⊢
  rw [hb] at hstop ⊢
  cases hinterval : frameInterval hz with
  | error why => simp [hinterval] at hstop
  | ok interval =>
    simp only [hinterval] at hstop ⊢
    have hframes := frames_showsEnd host hd hz interval _ _ 0 _ t hstop
    exact hframes.of_machine rfl

def endlessLoop : Session where
  machine :=
    { surface := .standard, random := .zeros,
      memory := .holding [0x71, 0x02, 0x12, 0x00] (by decide) }

def twelveOfLoop : SpeedRun := endlessLoop.runAtSpeed frozenHost 150 ((some 12).map Int.toNat) {}

/-- That run draws four frames: the third has the two instructions that are left, and the fourth tells
of the limit. -/
theorem last_frame_shows_end_loop :
    (blocked? endlessLoop.machine = none ∧ frozenHost.draws = true ∧
      twelveOfLoop.ending = .stopped) ∧
    ShowsEnd (stepsPerFrame 150) endlessLoop {} twelveOfLoop ∧ stepsPerFrame 150 = 5 ∧
      twelveOfLoop.trace.frames.toList.map (·.machine.cycles) = [5, 10, 12, 12] ∧
      twelveOfLoop.session.notice = .stepLimit 12 := by
  have hb : blocked? endlessLoop.machine = none := rfl
  have hstop : twelveOfLoop.ending = .stopped := by decide +kernel
  have hcycles : twelveOfLoop.trace.frames.toList.map (·.machine.cycles) = [5, 10, 12, 12] := by
    decide +kernel
  have hnotice : twelveOfLoop.session.notice = .stepLimit 12 := by decide +kernel
  exact ⟨⟨hb, rfl, hstop⟩,
    last_frame_shows_end endlessLoop hb frozenHost rfl 150 (some 12) {} hstop, by decide, hcycles,
    hnotice⟩

end Session

end Chip8.Debugger
