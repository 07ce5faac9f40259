import Chip8.Proofs.Machine.HeldKeys
import Chip8.Proofs.Machine.Twins

namespace Chip8

theorem Keypad.set_comm (k : Keypad) (code code' : Int) (pressed pressed' : Bool)
    (h : code % 16 ≠ code' % 16) :
    (k.set code pressed).set code' pressed' = (k.set code' pressed').set code pressed := by
  have hkey : (key code).val ≠ (key code').val := by
    simp only [key]
    omega
  simp only [set, Vector.set_comm _ _ hkey]

namespace Registers

theorem alu_tick (r : Registers) (f : Alu) (x y : Fin 16) :
    r.tick.alu f x y = (r.alu f x y).tick := by
  have hget (k : Fin 16) : r.tick.get k = r.get k := rfl
  simp only [alu, hget]
  cases (f.eval (r.get x) (r.get y)).2 <;> rfl

end Registers

def Event.moveKey (code : Int) : Bool → Event
  | true => .pressKey code
  | false => .releaseKey code

namespace Machine

section

variable {σ α : Type}

def thenDo (f : Machine σ → Machine σ) : Outcome σ α → Outcome σ α
  | .ok a m => .ok a (f m)
  | .error fault m => .error fault (f m)

@[simp] theorem thenDo_ok (f : Machine σ → Machine σ) (a : α) (m : Machine σ) :
    thenDo f (.ok a m) = .ok a (f m) := rfl

@[simp] theorem thenDo_error (f : Machine σ → Machine σ) (fault : Fault) (m : Machine σ) :
    thenDo f (.error fault m : Outcome σ α) = .error fault (f m) := rfl

@[simp] theorem left_thenDo (f : Machine σ → Machine σ) (o : Outcome σ α) :
    left (thenDo f o) = f (left o) := by
  cases o <;> rfl

@[simp] theorem told_thenDo (f : Machine σ → Machine σ) (tell : α → Reply) (o : Outcome σ α) :
    told tell (thenDo f o) = told tell o := by
  cases o <;> rfl

def nextFits (m : Machine σ) (forms : List String) : Bool :=
  match m.fetch with
  | .ok w => w.fitsAny forms
  | .error _ => false

theorem nextFits_append (m : Machine σ) (forms forms' : List String) :
    m.nextFits (forms ++ forms') = (m.nextFits forms || m.nextFits forms') := by
  unfold nextFits
  cases m.fetch with
  | error fault => rfl
  | ok w => exact List.any_append

end

variable {σ : Type} [Surface σ]

/-- An act on machines that execution does not notice, so that it may as well come after it, but for
instructions of some forms. -/
structure Unnoticed (f : Machine σ → Machine σ) (forms : List String) : Prop where
  mode : ∀ m, (f m).mode = m.mode
  fetch : ∀ m, (f m).fetch = m.fetch
  perform : ∀ m instr, instr.form ∉ forms → (f m).perform instr = thenDo f (m.perform instr)
  setPc : ∀ m next, (f m).setPc next = f (m.setPc next)
  noteKey : ∀ m x, (f m).noteKey x = f (m.noteKey x)
  counted : ∀ m, { f m with cycles := (f m).cycles + 1 } = f { m with cycles := m.cycles + 1 }

namespace Unnoticed

variable {f : Machine σ → Machine σ} {forms : List String}

theorem executeWord (h : Unnoticed f forms) (m : Machine σ) (w : Word)
    (hw : w.fitsAny forms = false) : (f m).executeWord w = thenDo f (m.executeWord w) := by
  unfold Machine.executeWord
  cases hd : w.decode? with
  | none =>
    by_cases hg : w.group.val = 0xE
    · simp only [refuse, if_pos hg, h.noteKey, thenDo_error]
    · simp only [refuse, if_neg hg, thenDo_error]
  | some instr =>
    have hform : instr.form ∉ forms := by
      intro hmem
      rw [Word.fitsAny_of_mem (w.encodes_of_decode? instr hd).1 hmem] at hw
      cases hw
    simp only [h.perform m instr hform]
    cases m.perform instr with
    | ok next n => simp only [thenDo_ok, h.setPc]
    | error fault n => rfl

theorem step (h : Unnoticed f forms) (m : Machine σ) (hw : m.nextFits forms = false) :
    (f m).step = thenDo f m.step := by
  unfold Machine.step
  rw [h.mode, h.fetch]
  cases m.mode with
  | awaitingKey x => rfl
  | running =>
    cases hf : m.fetch with
    | error fault => rfl
    | ok w =>
      have hfits : w.fitsAny forms = false := by
        rw [nextFits, hf] at hw
        exact hw
      simp only [h.executeWord m w hfits]
      cases m.executeWord w with
      | ok answer n => simp only [thenDo_ok, h.counted]
      | error fault n => rfl

end Unnoticed

/-- Only the instructions that read or set a timer notice a tick. -/
theorem tick_unnoticed : Unnoticed (tick : Machine σ → Machine σ) ["FX07", "FX15", "FX18"] where
  mode _ := rfl
  fetch _ := rfl
  perform m instr h := by
    cases instr with
    | readDelay x => exact absurd (by simp [Instr.form]) h
    | setDelay x => exact absurd (by simp [Instr.form]) h
    | setSound x => exact absurd (by simp [Instr.form]) h
    | ret =>
      have hstack : m.tick.registers.stack = m.registers.stack := rfl
      simp only [perform, Registers.pop, hstack]
      cases m.registers.stack <;> rfl
    | call target =>
      have hstack : m.tick.registers.stack = m.registers.stack := rfl
      by_cases hd : m.registers.stack.length < Registers.stackDepth
      · simp only [perform, Registers.push, hstack, if_pos hd]
        rfl
      · simp only [perform, Registers.push, hstack, if_neg hd]
        rfl
    | alu f x y =>
      have halu := m.registers.alu_tick f x y
      simp only [perform, mapRegisters, tick, halu]
      rfl
    | draw x y rows =>
      have hblock : m.tick.memory.block m.tick.registers.i rows.val =
          m.memory.block m.registers.i rows.val := rfl
      simp only [perform, draw, hblock]
      cases m.memory.block m.registers.i rows.val <;> rfl
    | storeDigits x =>
      have hload : m.tick.memory.load m.tick.registers.i (decimalDigits (m.tick.registers.get x)) =
          m.memory.load m.registers.i (decimalDigits (m.registers.get x)) := rfl
      simp only [perform, storeDigits, hload]
      cases m.memory.load m.registers.i (decimalDigits (m.registers.get x)) <;> rfl
    | _ => rfl
  setPc _ _ := rfl
  noteKey _ _ := rfl
  counted _ := rfl

def flagKey (m : Machine Display) (code : Int) (pressed : Bool) : Machine Display :=
  { m with surface := Surface.setKey m.surface code pressed }

theorem flip_setKey (d : Display) (code : Int) (pressed seen : Bool) (cell : Int × Int) :
    Surface.flip (Surface.setKey d code pressed, seen) cell =
      (Surface.setKey (Surface.flip (d, seen) cell).1 code pressed,
        (Surface.flip (d, seen) cell).2) := rfl

theorem flips_setKey (code : Int) (pressed : Bool) (cells : List (Int × Int)) (d : Display)
    (seen : Bool) :
    cells.foldl Surface.flip (Surface.setKey d code pressed, seen) =
      (Surface.setKey (cells.foldl Surface.flip (d, seen)).1 code pressed,
        (cells.foldl Surface.flip (d, seen)).2) := by
  induction cells generalizing d seen with
  | nil => rfl
  | cons cell cells ih =>
    rw [List.foldl_cons, List.foldl_cons, flip_setKey]
    exact ih _ _

theorem flagKey_unnoticed (code : Int) (pressed : Bool) :
    Unnoticed (fun m => m.flagKey code pressed) ["EX9E", "EXA1"] where
  mode _ := rfl
  fetch _ := rfl
  perform m instr h := by
    cases instr with
    | skipKey x held => cases held <;> exact absurd (by simp [Instr.form]) h
    | ret =>
      have hpop : (m.flagKey code pressed).registers.pop = m.registers.pop := rfl
      simp only [perform, hpop]
      cases m.registers.pop <;> rfl
    | call target =>
      have hpush : (m.flagKey code pressed).registers.push
          ((m.flagKey code pressed).registers.pc + 2) = m.registers.push (m.registers.pc + 2) := rfl
      simp only [perform, hpush]
      cases m.registers.push (m.registers.pc + 2) <;> rfl
    | draw x y rows =>
      have hblock : (m.flagKey code pressed).memory.block (m.flagKey code pressed).registers.i
          rows.val = m.memory.block m.registers.i rows.val := rfl
      simp only [perform, draw, hblock]
      cases m.memory.block m.registers.i rows.val with
      | error fault => rfl
      | ok sprite =>
        have hflips := flips_setKey code pressed
          (spriteCells (m.registers.get x).toNat (m.registers.get y).toNat sprite) m.surface false
        simp only [flagKey, Surface.flipAll, hflips]
        rfl
    | storeDigits x =>
      have hload : (m.flagKey code pressed).memory.load (m.flagKey code pressed).registers.i
          (decimalDigits ((m.flagKey code pressed).registers.get x)) =
            m.memory.load m.registers.i (decimalDigits (m.registers.get x)) := rfl
      simp only [perform, storeDigits, hload]
      cases m.memory.load m.registers.i (decimalDigits (m.registers.get x)) <;> rfl
    | _ => rfl
  setPc _ _ := rfl
  noteKey _ _ := rfl
  counted _ := rfl

theorem after_moveKey (m : Machine Display) (hm : m.mode = .running) (code : Int) (pressed : Bool) :
    m.after (.moveKey code pressed) = m.flagKey (Keypad.key code).val pressed := by
  cases pressed with
  | false => rfl
  | true => simp only [Event.moveKey, after, pressKey, hm, flagKey]

theorem flagKey_comm (m : Machine Display) (code code' : Int) (pressed pressed' : Bool)
    (h : code % 16 ≠ code' % 16) :
    (m.flagKey code pressed).flagKey code' pressed' =
      (m.flagKey code' pressed').flagKey code pressed := by
  have hkeypad := m.surface.keypad.set_comm code code' pressed pressed' h
  simp only [flagKey, Surface.setKey, hkeypad]

/-- Only a read of a key makes a step wait for one. -/
theorem mode_step (m : Machine σ) (hm : m.mode = .running) (hw : m.nextFits ["FX0A"] = false) :
    (left m.step).mode = .running := by
  rcases step_cases m hm with ⟨fault, m', hs, hmode, -⟩ | ⟨m', hs, -⟩
  · rw [hs]
    exact hmode
  · obtain ⟨w, instr, next, n, hf, hd, hp, -, rfl⟩ := step_ok m m' true hm hs
    have hchanged := (effect_of_perform m n w instr next (w.encodes_of_decode? instr hd) hp).mode_changed
    have hkept : n.mode = m.mode := by
      refine Decidable.of_not_not fun hne => ?_
      have hfits : w.fitsAny ["FX0A"] = true :=
        Word.fitsAny_of_mem (hchanged hne) (List.mem_singleton.mpr rfl)
      rw [nextFits, hf] at hw
      exact Bool.false_ne_true (hw.symm.trans hfits)
    rw [hs]
    exact hkept.trans hm

/-- Two events may come in either order: they leave the same machine, and each of them is answered
alike whether it comes first or second. -/
structure Commutes (m : Machine σ) (e e' : Event) : Prop where
  after : (m.after e).after e' = (m.after e').after e
  reply : (m.after e').reply e = m.reply e
  reply' : (m.after e).reply e' = m.reply e'

theorem Unnoticed.commutes_step {f : Machine σ → Machine σ} {forms : List String}
    (h : Unnoticed f forms) (m : Machine σ) (e : Event) (hw : m.nextFits forms = false)
    (hbefore : m.after e = f m) (hafter : (left m.step).after e = f (left m.step))
    (hreply : ∀ n : Machine σ, n.reply e = .done) : m.Commutes e .step where
  after := by
    change left (m.after e).step = (left m.step).after e
    rw [hbefore, hafter, h.step m hw, left_thenDo]
  reply := by rw [hreply, hreply]
  reply' := by
    change told .stepped (m.after e).step = told .stepped m.step
    rw [hbefore, h.step m hw, told_thenDo]

theorem reply_moveKey (m : Machine σ) (code : Int) (pressed : Bool) :
    m.reply (.moveKey code pressed) = .done := by
  cases pressed <;> rfl

theorem tick_commutes_moveKey (m : Machine Display) (code : Int) (pressed : Bool) :
    m.Commutes .tick (.moveKey code pressed) := by
  refine ⟨?_, rfl, by rw [reply_moveKey, reply_moveKey]⟩
  cases pressed with
  | false => rfl
  | true =>
    have hmode : m.tick.mode = m.mode := rfl
    simp only [Event.moveKey, after, pressKey, hmode]
    cases m.mode <;> rfl

theorem moveKey_commutes_moveKey (m : Machine Display) (hm : m.mode = .running)
    (code code' : Int) (pressed pressed' : Bool) (h : code % 16 ≠ code' % 16) :
    m.Commutes (.moveKey code pressed) (.moveKey code' pressed') := by
  refine ⟨?_, by rw [reply_moveKey, reply_moveKey], by rw [reply_moveKey, reply_moveKey]⟩
  have hkeys : ((Keypad.key code).val : Int) % 16 ≠ (Keypad.key code').val % 16 := by
    simp only [Keypad.key]
    omega
  rw [after_moveKey m hm, after_moveKey m hm, after_moveKey (m.flagKey _ _) hm,
    after_moveKey (m.flagKey _ _) hm]
  exact m.flagKey_comm _ _ pressed pressed' hkeys

theorem releaseKey_commutes_step (m : Machine Display) (code : Int)
    (hw : m.nextFits ["EX9E", "EXA1"] = false) : m.Commutes (.releaseKey code) .step :=
  (flagKey_unnoticed (Keypad.key code).val false).commutes_step m _ hw rfl rfl fun _ => rfl

theorem pressKey_commutes_step (m : Machine Display) (hm : m.mode = .running) (code : Int)
    (hw : m.nextFits ["EX9E", "EXA1", "FX0A"] = false) : m.Commutes (.pressKey code) .step := by
  have hforms := m.nextFits_append ["EX9E", "EXA1"] ["FX0A"]
  obtain ⟨hskips, hread⟩ := Bool.or_eq_false_iff.mp (hforms.symm.trans hw)
  have hmode := m.mode_step hm hread
  exact (flagKey_unnoticed (Keypad.key code).val true).commutes_step m _ hskips
    (m.after_moveKey hm code true) ((left m.step).after_moveKey hmode code true) fun _ => rfl

/-- Ticks commute with keys, and keys with other keys as long as none is awaited. A tick commutes with
a step unless that reads or sets a timer, and a key with a step of a machine that runs unless that asks
for keys or, if the key goes down, waits for one. So it is also where the step fails. -/
theorem independent_events_commute (m : Machine Display) :
    (∀ code, m.Commutes .tick (.pressKey code) ∧ m.Commutes .tick (.releaseKey code)) ∧
    (m.mode = .running → ∀ code code' pressed pressed', code % 16 ≠ code' % 16 →
      m.Commutes (.moveKey code pressed) (.moveKey code' pressed')) ∧
    (m.nextFits ["FX07", "FX15", "FX18"] = false → m.Commutes .tick .step) ∧
    (m.mode = .running → m.nextFits ["EX9E", "EXA1", "FX0A"] = false →
      ∀ code, m.Commutes (.pressKey code) .step) ∧
    (m.mode = .running → m.nextFits ["EX9E", "EXA1"] = false →
      ∀ code, m.Commutes (.releaseKey code) .step) := by
  refine ⟨?_, ?_, ?_, ?_, ?_⟩
  · intro code
    exact ⟨m.tick_commutes_moveKey code true, m.tick_commutes_moveKey code false⟩
  · intro hm code code' pressed pressed' h
    exact m.moveKey_commutes_moveKey hm code code' pressed pressed' h
  · intro hw
    exact tick_unnoticed.commutes_step m .tick hw rfl rfl fun _ => rfl
  · intro hm hw code
    exact m.pressKey_commutes_step hm code hw
  · intro _ hw code
    exact m.releaseKey_commutes_step code hw

def atSpriteOutside : Machine Display where
  surface := .standard
  random := .zeros
  memory := .holding [0xD1, 0x2F] (by decide)
  registers := { i := 0xFFF, dt := 5 }

def atDelayRead : Machine Display where
  surface := .standard
  random := .zeros
  memory := .holding [0xF1, 0x07] (by decide)
  registers := { dt := 5 }

/-- That draw fails before and after ticks and keys; the read of the delay is another one after a
tick. -/
theorem independent_events_commute_at_fault :
    (atSpriteOutside.mode = .running ∧ (3 : Int) % 16 ≠ 20 % 16 ∧
      atSpriteOutside.nextFits ["FX07", "FX15", "FX18"] = false ∧
      atSpriteOutside.nextFits ["EX9E", "EXA1", "FX0A"] = false ∧
      atSpriteOutside.nextFits ["EX9E", "EXA1"] = false) ∧
    atSpriteOutside.reply .step = .refused (.outOfRange 0xFFF 15) ∧
      atSpriteOutside.Commutes .tick (.pressKey 3) ∧
      atSpriteOutside.Commutes (.moveKey 3 true) (.moveKey 20 false) ∧
      atSpriteOutside.Commutes .tick .step ∧ atSpriteOutside.Commutes (.pressKey 3) .step ∧
      atSpriteOutside.Commutes (.releaseKey 20) .step ∧
    ¬ atDelayRead.Commutes .tick .step := by
  have hrunning : atSpriteOutside.mode = .running := rfl
  have hkeys : (3 : Int) % 16 ≠ 20 % 16 := by decide
  have htimers : atSpriteOutside.nextFits ["FX07", "FX15", "FX18"] = false := by decide +kernel
  have hpresses : atSpriteOutside.nextFits ["EX9E", "EXA1", "FX0A"] = false := by decide +kernel
  have hreleases : atSpriteOutside.nextFits ["EX9E", "EXA1"] = false := by decide +kernel
  have hfails : atSpriteOutside.reply .step = .refused (.outOfRange 0xFFF 15) := by decide +kernel
  have hread : ((atDelayRead.after .tick).after .step).registers.v ≠
      ((atDelayRead.after .step).after .tick).registers.v := by decide +kernel
  obtain ⟨htick, hmoves, hstep, hpress, hrelease⟩ := independent_events_commute atSpriteOutside
  refine ⟨⟨hrunning, hkeys, htimers, hpresses, hreleases⟩, hfails, (htick 3).1,
    hmoves hrunning 3 20 true false hkeys, hstep htimers, hpress hrunning hpresses 3,
    hrelease hrunning hreleases 20, ?_⟩
  intro h
  exact hread (congrArg (fun m : Machine Display => m.registers.v) h.after)

end Machine

end Chip8
