import Chip8.Proofs.Lists
import Chip8.Proofs.Machine.Footprint
import Chip8.Proofs.Surface.Torus

namespace Chip8

def Event.keyMove? (code : Int) : Event → Option Bool
  | .pressKey c => if c % 16 = code % 16 then some true else none
  | .releaseKey c => if c % 16 = code % 16 then some false else none
  | _ => none

/-- The last press or release of a key, if there is any, was a press. -/
def Event.pressedLast (events : List Event) (code : Int) : Bool :=
  (events.filterMap (keyMove? code)).getLast?.getD false

namespace Machine

theorem kept_keypad (k : Keypad) : Kept fun m : Machine Display => m.surface.keypad = k :=
  kept_surface (fun d : Display => d.keypad = k) (fun _ h => h) (fun _ _ _ _ h => h)
    (fun _ _ h => h)

theorem after_isPressed (m : Machine Display) (event : Event) (code : Int) :
    (m.after event).surface.keypad.isPressed code =
      (event.keyMove? code).getD (m.surface.keypad.isPressed code) := by
  have k := kept_keypad m.surface.keypad
  cases event with
  | step => exact congrArg (·.isPressed code) (k.step m rfl)
  | run stopAtZero limit => exact congrArg (·.isPressed code) (k.run m stopAtZero limit.toNat rfl)
  | execute word => exact congrArg (·.isPressed code) (k.executeWord m _ rfl)
  | pressKey c =>
    -- The surface is told the number of the key, not the code.
    have hset : (m.pressKey c).surface.keypad = m.surface.keypad.set c true := by
      rw [pressKey_surface]
      exact m.surface.keypad.set_key c true
    simp only [after, hset, Keypad.isPressed_set, Event.keyMove?]
    split <;> rfl
  | releaseKey c =>
    have hset : (m.releaseKey c).surface.keypad = m.surface.keypad.set c false :=
      m.surface.keypad.set_key c false
    simp only [after, hset, Keypad.isPressed_set, Event.keyMove?]
    split <;> rfl
  | _ => simp [after, Event.keyMove?, tick, setPc]

theorem afterAll_isPressed (m : Machine Display) (events : List Event) (code : Int) :
    (m.afterAll events).surface.keypad.isPressed code =
      (events.filterMap (Event.keyMove? code)).getLast?.getD
        (m.surface.keypad.isPressed code) :=
  foldl_last_given after (fun m => m.surface.keypad.isPressed code) (Event.keyMove? code)
    (fun _ => True) (fun _ _ _ => trivial) (fun m event _ => after_isPressed m event code) m trivial
    events

theorem skipKey_pc (m n : Machine Display) (w : Word) (x : Fin 16) (held : Bool)
    (hd : w.decode? = some (.skipKey x held)) (h : m.executeWord w = .ok () n) :
    n.registers.pc = (m.registers.pc +
      if m.surface.keypad.isPressed (m.registers.get x).toNat = held then 4 else 2) % 65536 := by
  simp only [executeWord, hd, perform, EStateM.Result.ok.injEq, true_and] at h
  rw [← h]
  change (if m.keyHeld x = held then m.registers.pc + 4 else m.registers.pc + 2) % 65536 = _
  change (if m.surface.keypad.isPressed (m.registers.get x).toNat = held then _ else _) % 65536 = _
  split <;> rfl

/-- A machine that has seen some events holds the keys that were pressed last, and no others. -/
def HoldsPressed (events : List Event) (m : Machine Display) : Prop :=
  ∀ code, Surface.isKeyPressed m.surface code = Event.pressedLast events code

/-- An instruction that was executed after some events has found and left the keys as the events
have, and if it is a skip on a key, the last press or release of that key has decided it. -/
structure HeedsKeys (events : List Event) (e : Executed Display) : Prop where
  before : HoldsPressed events e.before
  after : HoldsPressed events e.after
  skipIfHeld : e.word.fits "EX9E" → e.after.pc = (e.before.pc +
    if Event.pressedLast events (e.before.registers.get e.word.x).toNat then 4 else 2) % 65536
  skipUnlessHeld : e.word.fits "EXA1" → e.after.pc = (e.before.pc +
    if Event.pressedLast events (e.before.registers.get e.word.x).toNat then 2 else 4) % 65536

/-- Whatever a machine with no key held goes through, a key is held if and only if the last event
that moved it was a press, and the skips on keys go by that. -/
theorem skips_heed_last_key_event (width height : Nat) (hw : 0 < width) (hh : 0 < height)
    (random : RandomSource) (memory : Memory) (events : List Event) :
    let m : Machine Display := { surface := .blank width height hw hh, random, memory }
    HoldsPressed events (m.afterAll events) ∧
    ∀ event, ∀ e ∈ (m.afterAll events).eventLog event, HeedsKeys events e := by
  intro m
  have hheld : HoldsPressed events (m.afterAll events) := by
    intro code
    have hblank : m.surface.keypad.isPressed code = false := by
      change (Vector.replicate 16 false)[(Keypad.key code).val] = false
      rw [Vector.getElem_replicate]
    have hall := afterAll_isPressed m events code
    rw [hblank] at hall
    exact hall
  refine ⟨hheld, ?_⟩
  intro event e he
  obtain ⟨hbefore, hafter, n, hx, hr⟩ :=
    (kept_keypad (m.afterAll events).surface.keypad).eventLog _ event rfl e he
  have hskip (held : Bool) (hd : e.word.decode? = some (.skipKey e.word.x held)) :
      e.after.pc = (e.before.pc +
        if Event.pressedLast events (e.before.registers.get e.word.x).toNat = held then 4
        else 2) % 65536 := by
    have hpc := skipKey_pc e.before n e.word e.word.x held hd hx
    have hkey := hheld (e.before.registers.get e.word.x).toNat
    rw [hbefore] at hpc
    change (m.afterAll events).surface.keypad.isPressed _ = _ at hkey
    rw [hkey] at hpc
    exact (congrArg Registers.pc hr).trans hpc
  exact {
    before := fun code => (congrArg (·.isPressed code) hbefore).trans (hheld code)
    after := fun code => (congrArg (·.isPressed code) hafter).trans (hheld code)
    skipIfHeld := fun hw => by
      exact hskip true (e.word.decode?_of_fits ("EX9E", fun w => .skipKey w.x true)
        (by simp [instructionSet]) hw)
    skipUnlessHeld := fun hw => by
      have hpc := hskip false (e.word.decode?_of_fits ("EXA1", fun w => .skipKey w.x false)
        (by simp [instructionSet]) hw)
      rw [hpc]
      cases Event.pressedLast events _ <;> rfl }

def keySkips : Memory := .holding [0x61, 0x23, 0xE1, 0x9E, 0x12, 0x00, 0xE1, 0xA1] (by decide)

/-- Key 3 goes down, under another code, up, and down again; it is held at both skips. -/
theorem skips_heed_last_key_event_codes :
    let m : Machine Display :=
      { surface := .blank 3 5 (by decide) (by decide), random := .zeros, memory := keySkips }
    let events : List Event := [.pressKey (-13), .step, .releaseKey 35, .tick, .pressKey 19,
      .releaseKey 4]
    let skips := (m.afterAll events).eventLog (.run true 2)
    (0 < 3 ∧ 0 < 5) ∧
    HoldsPressed events (m.afterAll events) ∧
    skips.map (·.word) = [0xE19E, 0xE1A1] ∧ skips.map (·.after.pc) = [0x206, 0x208] ∧
    ∀ e ∈ skips, HeedsKeys events e := by
  intro m events skips
  have h := skips_heed_last_key_event 3 5 (by decide) (by decide) .zeros keySkips events
  have hwords : skips.map (·.word) = [0xE19E, 0xE1A1] := by decide +kernel
  have hpcs : skips.map (·.after.pc) = [0x206, 0x208] := by decide +kernel
  have hsize : 0 < 3 ∧ 0 < 5 := by decide
  exact ⟨hsize, h.1, hwords, hpcs, h.2 (.run true 2)⟩

end Machine

end Chip8
