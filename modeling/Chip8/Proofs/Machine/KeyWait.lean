import Chip8.Proofs.Machine.Flow

namespace Chip8

/-- A surface whose screen does not show which keys are held. -/
class Surface.KeysApart (σ : Type) [Surface σ] : Prop where
  pixel_setKey : ∀ (s : σ) (k : Int) (pressed : Bool), pixel (setKey s k pressed) = pixel s

instance : Surface.KeysApart Display := ⟨fun _ _ _ => rfl⟩

instance : Surface.KeysApart Recorder where
  pixel_setKey r k pressed := by
    cases h : r.takesKeys <;> simp [Surface.setKey, h, Surface.pixel, Recorder.record]

/-- The word FX0A reads a key into VX. -/
theorem Word.decode?_awaitKey (w : Word) (x : Fin 16) (h : w.toNat = 0xF00A + 0x100 * x.val) :
    w.decode? = some (.awaitKey x) := by
  have hgroup : w.group.val = 0xF := by
    simp only [Word.group]
    omega
  have hnn : w.nn.toNat = 0x0A := by
    simp only [Word.nn, UInt8.toNat_ofNat']
    omega
  have hx : w.x = x := by
    apply Fin.ext
    simp only [Word.x]
    omega
  simp only [Word.decode?, hgroup, Instr.ofMiscGroup?, hnn, hx]

def Event.idle : Event → Bool
  | .step | .run _ _ | .tick | .releaseKey _ => true
  | _ => false

namespace Machine

variable {σ : Type}

def blockedOn (m : Machine σ) (x : Fin 16) : Machine σ :=
  { m with
    registers := { m.registers with pc := m.registers.pc + 2 }
    mode := .awaitingKey x
    cycles := m.cycles + 1 }

theorem fetch_congr (m m' : Machine σ) (hpc : m'.registers.pc = m.registers.pc)
    (hmem : m'.memory = m.memory) : m'.fetch = m.fetch := by
  simp only [fetch, hpc, hmem]

variable [Surface σ]

/-- The second machine still waits where the first does: only its timers and its keys may have
changed. -/
structure StillWaits (m m' : Machine σ) : Prop where
  mode : m'.mode = m.mode
  registers : m'.registers = { m.registers with dt := m'.registers.dt, st := m'.registers.st }
  memory : m'.memory = m.memory
  pixel : Surface.pixel m'.surface = Surface.pixel m.surface
  random : m'.random = m.random
  halted : m'.halted = m.halted
  cycles : m'.cycles = m.cycles

/-- A key press has put the key into VX and changed nothing else but the keys: the second machine
runs on where the first has waited. -/
structure Resolved (x : Fin 16) (code : Int) (m m' : Machine σ) : Prop where
  mode : m'.mode = .running
  registers : ∃ key : UInt8, (key.toNat : Int) = code % 16 ∧ m'.registers = m.registers.set x key
  memory : m'.memory = m.memory
  pixel : Surface.pixel m'.surface = Surface.pixel m.surface
  random : m'.random = m.random
  halted : m'.halted = m.halted
  cycles : m'.cycles = m.cycles

theorem step_awaitKey (m : Machine σ) (x : Fin 16) (w : Word) (hm : m.mode = .running)
    (hf : m.fetch = .ok w) (hw : w.toNat = 0xF00A + 0x100 * x.val) :
    m.step = .ok true (m.blockedOn x) := by
  have hd := Word.decode?_awaitKey w x hw
  have hpc := pc_of_fetch m w hf
  have hmod : (m.registers.pc + 2) % 65536 = m.registers.pc + 2 := by omega
  simp only [step, hm, hf, executeWord, hd, perform, setPc, hmod, blockedOn]

theorem step_of_running (m : Machine σ) (hm : m.mode = .running) :
    m.step = match m.fetch with
      | .error fault => .error fault m
      | .ok w =>
        match m.executeWord w with
        | .ok _ n => .ok true { n with cycles := n.cycles + 1 }
        | .error fault n => .error fault n := by
  cases hf : m.fetch with
  | error fault => simp only [step, hm, hf]
  | ok w => cases he : m.executeWord w <;> simp only [step, hm, hf, he]

theorem step_of_waiting (m : Machine σ) (x : Fin 16) (hm : m.mode = .awaitingKey x) :
    m.step = .ok false m := by
  simp only [step, hm]

theorem run_of_waiting (m : Machine σ) (x : Fin 16) (hm : m.mode = .awaitingKey x)
    (stopAtZero : Bool) (limit : Nat) : m.run stopAtZero limit = .ok 0 m :=
  runFrom_of_waiting m stopAtZero 0 limit (by rw [hm]; exact Mode.noConfusion)

namespace StillWaits

variable {m m' m'' : Machine σ}

theorem refl (m : Machine σ) : m.StillWaits m := ⟨rfl, rfl, rfl, rfl, rfl, rfl, rfl⟩

theorem trans (h : m.StillWaits m') (h' : m'.StillWaits m'') : m.StillWaits m'' where
  mode := h'.mode.trans h.mode
  registers := by
    rw [h'.registers, h.registers]
  memory := h'.memory.trans h.memory
  pixel := h'.pixel.trans h.pixel
  random := h'.random.trans h.random
  halted := h'.halted.trans h.halted
  cycles := h'.cycles.trans h.cycles

theorem after [Surface.KeysApart σ] (m : Machine σ) (x : Fin 16) (hm : m.mode = .awaitingKey x)
    (event : Event) (he : event.idle) : m.StillWaits (m.after event) := by
  cases event with
  | step =>
    rw [Machine.after, step_of_waiting m x hm]
    exact refl m
  | run stopAtZero limit =>
    rw [Machine.after, run_of_waiting m x hm]
    exact refl m
  | tick => exact ⟨rfl, rfl, rfl, rfl, rfl, rfl, rfl⟩
  | releaseKey code =>
    exact ⟨rfl, rfl, rfl, Surface.KeysApart.pixel_setKey _ _ _, rfl, rfl, rfl⟩
  | _ => exact absurd he Bool.false_ne_true

theorem afterAll [Surface.KeysApart σ] (m : Machine σ) (x : Fin 16)
    (hm : m.mode = .awaitingKey x) (events : List Event) (he : ∀ event ∈ events, event.idle) :
    m.StillWaits (m.afterAll events) := by
  induction events generalizing m with
  | nil => exact refl m
  | cons event events ih =>
    have hone := after m x hm event (he event List.mem_cons_self)
    have hm' : (m.after event).mode = .awaitingKey x := hone.mode.trans hm
    exact hone.trans (ih _ hm' fun e h => he e (List.mem_cons_of_mem event h))

end StillWaits

theorem pressKey_resolved [Surface.KeysApart σ] (m : Machine σ) (x : Fin 16)
    (hm : m.mode = .awaitingKey x) (code : Int) : Resolved x code m (m.pressKey code) := by
  have hkey : ((UInt8.ofNat (Keypad.key code).val).toNat : Int) = code % 16 := by
    simp only [Keypad.key, UInt8.toNat_ofNat']
    omega
  have hpress : m.pressKey code =
      { m with
        surface := Surface.setKey m.surface (Keypad.key code).val true
        registers := m.registers.set x (UInt8.ofNat (Keypad.key code).val)
        mode := .running } := by
    simp only [pressKey, hm]
  rw [hpress]
  exact ⟨rfl, ⟨_, hkey, rfl⟩, rfl, Surface.KeysApart.pixel_setKey _ _ _, rfl, rfl, rfl⟩

/-- A read of a key blocks the machine until a key goes down: steps, runs, ticks and keys that go up
change nothing but timers and keys. The first key that goes down is put into VX, whether it has been
held before or not, and the next step executes the word behind the read. -/
theorem key_read_protocol [Surface.KeysApart σ] (m : Machine σ) (x : Fin 16) (w : Word)
    (hm : m.mode = .running) (hf : m.fetch = .ok w) (hw : w.toNat = 0xF00A + 0x100 * x.val) :
    m.step = .ok true (m.blockedOn x) ∧
      ∀ events : List Event, (∀ event ∈ events, event.idle) →
        let waiting := (m.blockedOn x).afterAll events
        (m.blockedOn x).StillWaits waiting ∧ waiting.step = .ok false waiting ∧
        (∀ stopAtZero limit, waiting.run stopAtZero limit = .ok 0 waiting) ∧
        ∀ code : Int,
          let resumed := waiting.pressKey code
          Resolved x code waiting resumed ∧
            resumed.step = match (m.setPc (m.registers.pc + 2)).fetch with
              | .error fault => .error fault resumed
              | .ok next =>
                match resumed.executeWord next with
                | .ok _ n => .ok true { n with cycles := n.cycles + 1 }
                | .error fault n => .error fault n := by
  refine ⟨step_awaitKey m x w hm hf hw, ?_⟩
  intro events he waiting
  have hwaits : (m.blockedOn x).StillWaits waiting := StillWaits.afterAll _ x rfl events he
  have hmode : waiting.mode = .awaitingKey x := hwaits.mode
  refine ⟨hwaits, step_of_waiting _ x hmode, run_of_waiting _ x hmode, ?_⟩
  intro code resumed
  have hresolved : Resolved x code waiting resumed := pressKey_resolved _ x hmode code
  refine ⟨hresolved, ?_⟩
  -- The word behind the read is still there, and PC still points at it.
  have hfetch : resumed.fetch = (m.setPc (m.registers.pc + 2)).fetch := by
    have hpc := pc_of_fetch m w hf
    obtain ⟨key, -, hr⟩ := hresolved.registers
    apply fetch_congr
    · rw [hr, hwaits.registers]
      simp only [Registers.set, blockedOn, setPc]
      omega
    · exact hresolved.memory.trans hwaits.memory
  rw [← hfetch]
  exact step_of_running resumed hresolved.mode

/-- A read into VF on a surface that takes no keys and holds key 3 all the time: only the press of that
key, under another code, ends the wait. -/
theorem key_read_protocol_held :
    let m : Machine Recorder :=
      { surface := { width := 64, height := 32, held := [3] }, random := .zeros,
        memory := .holding [0xFF, 0x0A, 0x12, 0x00] (by decide), registers := { dt := 2 } }
    let events : List Event := [.run true 7, .tick, .releaseKey 3, .step]
    let waiting := (m.blockedOn Registers.flag).afterAll events
    (m.mode = .running ∧ m.fetch = .ok 0xFF0A ∧
      (0xFF0A : Word).toNat = 0xF00A + 0x100 * Registers.flag.val ∧
      ∀ event ∈ events, event.idle) ∧
    m.step = .ok true (m.blockedOn Registers.flag) ∧
      (m.blockedOn Registers.flag).StillWaits waiting ∧ waiting.registers.dt = 1 ∧
      Resolved Registers.flag (-13) waiting (waiting.pressKey (-13)) ∧
      ((waiting.pressKey (-13)).registers.get Registers.flag).toNat = 3 := by
  intro m events waiting
  have hbytes : m.memory.byte 0x200 = 0xFF ∧ m.memory.byte 0x201 = 0x0A := by decide +kernel
  have hf : m.fetch = .ok 0xFF0A := by
    change Except.ok (Word.ofBytes (m.memory.byte 0x200) (m.memory.byte 0x201)) = _
    rw [hbytes.1, hbytes.2]
    rfl
  have he : ∀ event ∈ events, event.idle := by decide
  obtain ⟨hstep, h⟩ := key_read_protocol m Registers.flag 0xFF0A rfl hf rfl
  obtain ⟨hwaits, -, -, hpress⟩ := h events he
  exact ⟨⟨rfl, hf, rfl, he⟩, hstep, hwaits, by decide +kernel, (hpress (-13)).1,
    by decide +kernel⟩

end Machine

end Chip8
