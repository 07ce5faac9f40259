import Chip8.Proofs.Machine.Log

namespace Chip8

/-- How far a program can get: a jump from V0 reaches no further than 0xFFF + 0xFF, and a call is
returned from to somewhere behind an instruction in memory. -/
structure Registers.WithinReach (r : Registers) : Prop where
  pc : 0 ≤ r.pc ∧ r.pc ≤ 0x10FE
  stack : ∀ addr ∈ r.stack, 2 ≤ addr.toNat ∧ addr.toNat ≤ 0x1000

namespace Registers.WithinReach

variable {r : Registers}

theorem initial : WithinReach {} := by
  refine ⟨?_, ?_⟩
  · simp [programStart]
  · intro addr h
    exact absurd h List.not_mem_nil

theorem flow (h : r.WithinReach) (hpc : 0 ≤ r.pc ∧ r.pc ≤ 0xFFE) {instr : Instr} {next : Int}
    {stack : List UInt16} (hflow : Flow r instr next stack) :
    (0 ≤ next ∧ next ≤ 0x10FE) ∧ ∀ addr ∈ stack, 2 ≤ addr.toNat ∧ addr.toNat ≤ 0x1000 := by
  cases hflow with
  | next => exact ⟨by omega, h.stack⟩
  | skip condition => exact ⟨by omega, h.stack⟩
  | skipKey x held => exact ⟨by omega, h.stack⟩
  | jump target => exact ⟨by omega, h.stack⟩
  | jumpV0 base =>
    have hv := (r.get Registers.first).toNat_lt
    exact ⟨by omega, h.stack⟩
  | call target hd =>
    have haddr := toNat_ofInt_of_lt (r.pc + 2) (by omega) (by omega)
    refine ⟨by omega, ?_⟩
    intro addr hmem
    rcases List.mem_cons.mp hmem with rfl | hmem
    · omega
    · exact h.stack addr hmem
  | ret addr rest hs =>
    have haddr := h.stack addr (hs ▸ List.mem_cons_self)
    refine ⟨by omega, ?_⟩
    intro addr' hmem
    exact h.stack addr' (hs ▸ List.mem_cons_of_mem addr hmem)

end Registers.WithinReach

/-- A transfer of at least one byte begins in memory and ends in it or right behind it. -/
theorem Memory.transferCount_bounds (i : Int) (x : Fin 16) (h : 1 ≤ transferCount i x) :
    0 ≤ i ∧ i + transferCount i x ≤ 4096 := by
  unfold transferCount at h ⊢
  split at h
  · next hi =>
    rw [if_pos hi]
    omega
  · omega

namespace Machine

variable {σ : Type}

theorem saveRegisters_i (m : Machine σ) (x : Fin 16)
    (h : 1 ≤ Memory.transferCount m.registers.i x) :
    (m.saveRegisters x).registers.i = m.registers.i + Memory.transferCount m.registers.i x := by
  have hbounds := Memory.transferCount_bounds m.registers.i x h
  simp only [saveRegisters, Registers.addI]
  omega

theorem loadRegisters_i (m : Machine σ) (x : Fin 16)
    (h : 1 ≤ Memory.transferCount m.registers.i x) :
    (m.loadRegisters x).registers.i = m.registers.i + Memory.transferCount m.registers.i x := by
  have hbounds := Memory.transferCount_bounds m.registers.i x h
  simp only [loadRegisters, Registers.addI, Registers.loadFrom]
  omega

theorem fetch_of_outside (m : Machine σ) (h : 0xFFE < m.registers.pc) :
    m.fetch = .error (.outOfRange m.registers.pc 2) := by
  have hh : ¬ Memory.Holds m.registers.pc 2 := by
    unfold Memory.Holds
    omega
  rw [fetch, if_neg hh]

variable [Surface σ]

theorem step_of_fetch_error (m : Machine σ) (fault : Fault) (hm : m.mode = .running)
    (h : m.fetch = .error fault) : m.step = .error fault m := by
  simp only [step, hm, h]

theorem run_of_fetch_error (m : Machine σ) (fault : Fault) (hh : m.halted = false)
    (hm : m.mode = .running) (h : m.fetch = .error fault) (stopAtZero : Bool) (limit : Nat)
    (hl : 0 < limit) : m.run stopAtZero limit = .error fault m := by
  obtain ⟨limit, rfl⟩ : ∃ n, limit = n + 1 := ⟨limit - 1, by omega⟩
  have hs := step_of_fetch_error m fault hm h
  cases stopAtZero <;> simp [run, runFrom, runStep, hh, hm, h, hs]

theorem logged_withinReach :
    Logged fun _ (m : Machine σ) => m.registers.WithinReach where
  step _ m w m' hf hs h := by
    obtain ⟨instr, next, -, hflow, hpc, -⟩ := step_flow m m' w hf hs
    obtain ⟨hnext, hstack⟩ := h.flow (pc_of_fetch m w hf) hflow
    have hmod : next % 65536 = next := by omega
    rw [hmod] at hpc
    exact ⟨by rw [hpc]; exact hnext, hstack⟩
  rest _ m m' hr h := ⟨by rw [hr.pc]; exact h.pc, by rw [hr.stack]; exact h.stack⟩

theorem logged_stranded (pc : Int) (hpc : 0xFFE < pc) (cycles : Nat) :
    Logged fun _ (m : Machine σ) => m.registers.pc = pc ∧ m.cycles = cycles where
  step _ m w m' hf hs h := by
    have hle := (pc_of_fetch m w hf).2
    omega
  rest _ m m' hr h := ⟨hr.pc.trans h.1, hr.cycles.trans h.2⟩

/-- Whatever happens to it, a machine can only refuse to fetch from where PC stands. -/
structure Stranded (m m' : Machine σ) : Prop where
  pc : m'.registers.pc = m.registers.pc
  cycles : m'.cycles = m.cycles
  fetch : m'.fetch = .error (.outOfRange m.registers.pc 2)
  step : m'.mode = .running → m'.step = .error (.outOfRange m.registers.pc 2) m'
  run : m'.mode = .running → m'.halted = false → ∀ stopAtZero limit, 0 < limit →
    m'.run stopAtZero limit = .error (.outOfRange m.registers.pc 2) m'

/-- No address is ever reduced to sixteen bits: PC stays within reach, and so do return addresses,
and neither they nor I after a transfer differ from what was computed. -/
structure NeverWraps (m : Machine σ) : Prop where
  reach : m.registers.WithinReach
  pc : ∀ w instr next n, m.fetch = .ok w → w.decode? = some instr →
    m.perform instr = .ok next n → (n.setPc next).registers.pc = next
  push : ∀ w r, m.fetch = .ok w → m.registers.push (m.registers.pc + 2) = .ok r →
    ∃ addr, r.stack = addr :: m.registers.stack ∧ (addr.toNat : Int) = m.registers.pc + 2
  transfer : ∀ x, 1 ≤ Memory.transferCount m.registers.i x →
    (m.saveRegisters x).registers.i = m.registers.i + Memory.transferCount m.registers.i x ∧
      (m.loadRegisters x).registers.i = m.registers.i + Memory.transferCount m.registers.i x
  stranded : 0xFFE < m.registers.pc → ∀ later : List Event,
    (∀ event ∈ later, event.handsOff) → m.Stranded (m.afterAll later)

theorem stranded_afterAll (m : Machine σ) (h : 0xFFE < m.registers.pc) (later : List Event)
    (he : ∀ event ∈ later, event.handsOff) : m.Stranded (m.afterAll later) := by
  obtain ⟨hpc, hcycles⟩ :=
    (logged_stranded m.registers.pc h m.cycles).log [] m later he ⟨rfl, rfl⟩
  have hfetch := fetch_of_outside (m.afterAll later) (by rw [hpc]; exact h)
  rw [hpc] at hfetch
  exact ⟨hpc, hcycles, hfetch, fun hm => step_of_fetch_error _ _ hm hfetch,
    fun hm hh stopAtZero limit hl => run_of_fetch_error _ _ hh hm hfetch stopAtZero limit hl⟩

theorem neverWraps_of_withinReach (m : Machine σ) (h : m.registers.WithinReach) :
    m.NeverWraps where
  reach := h
  pc w instr next n hf _ hp := by
    obtain ⟨hnext, -⟩ := h.flow (pc_of_fetch m w hf) (perform_flow m n instr next hp)
    change next % 65536 = next
    omega
  push w r hf hr := by
    have hpc := pc_of_fetch m w hf
    have haddr := toNat_ofInt_of_lt (m.registers.pc + 2) (by omega) (by omega)
    unfold Registers.push at hr
    split at hr
    · rw [Except.ok.injEq] at hr
      exact ⟨_, by rw [← hr], haddr⟩
    · simp at hr
  transfer x hx := ⟨saveRegisters_i m x hx, loadRegisters_i m x hx⟩
  stranded hpc later he := stranded_afterAll m hpc later he

/-- Whatever program a machine starts with and however it is driven, its addresses never wrap. -/
theorem execution_never_wraps (surface : σ) (random : RandomSource) (memory : Memory)
    (events : List Event) (he : ∀ event ∈ events, event.handsOff) :
    (({ surface, random, memory } : Machine σ).afterAll events).NeverWraps := by
  apply neverWraps_of_withinReach
  exact logged_withinReach.log [] _ events he Registers.WithinReach.initial

def farthestJump : Memory := .holding [0x60, 0xFF, 0xBF, 0xFF] (by decide)

/-- The bound of PC is reached, and there the machine fails for good. -/
theorem execution_never_wraps_farthest :
    let m : Machine Display := { surface := .standard, random := .zeros, memory := farthestJump }
    let events : List Event := [.run true 9]
    (∀ event ∈ events, event.handsOff) ∧
      (m.afterAll events).registers.pc = 0x10FE ∧ (m.afterAll events).NeverWraps ∧
      (m.afterAll events).Stranded ((m.afterAll events).afterAll [.tick, .pressKey 0, .step]) := by
  intro m events
  have he : ∀ event ∈ events, event.handsOff := by decide
  have hpc : (m.afterAll events).registers.pc = 0x10FE := by decide +kernel
  have h : (m.afterAll events).NeverWraps := execution_never_wraps _ _ _ events he
  have hfar : 0xFFE < (m.afterAll events).registers.pc := by
    rw [hpc]
    decide
  exact ⟨he, hpc, h, h.stranded hfar _ (by decide)⟩

end Machine

end Chip8
