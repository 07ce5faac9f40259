import Chip8.Proofs.Machine.Log

namespace Chip8

variable {σ : Type}

namespace Executed

def calls (e : Executed σ) : Bool := e.word.decode?.any Instr.calls

def returns (e : Executed σ) : Bool := e.word.decode?.any Instr.returns

end Executed

def Machine.depth (m : Machine σ) : Nat := m.registers.stack.length

variable [Surface σ]

namespace Executed

/-- An instruction that the machine has really executed. -/
structure Genuine (e : Executed σ) : Prop where
  fetch : e.before.fetch = .ok e.word
  step : e.before.step = .ok true e.after

/-- A call puts the address behind it on the stack, a return takes the topmost address and goes on
there, and no other instruction touches the stack. -/
theorem Genuine.stack_cases {e : Executed σ} (h : e.Genuine) :
    (e.calls = true ∧ e.returns = false ∧ e.before.depth < 16 ∧ ∃ addr : UInt16,
      e.after.registers.stack = addr :: e.before.registers.stack ∧
        (addr.toNat : Int) = e.before.pc + 2) ∨
    (e.calls = false ∧ e.returns = true ∧ ∃ addr : UInt16,
      e.before.registers.stack = addr :: e.after.registers.stack ∧ e.after.pc = addr.toNat) ∨
    e.calls = false ∧ e.returns = false ∧
      e.after.registers.stack = e.before.registers.stack := by
  obtain ⟨instr, next, hd, hflow, hpc, -⟩ := Machine.step_flow _ _ _ h.fetch h.step
  have hc : e.calls = instr.calls := by rw [calls, hd, Option.any_some]
  have hr : e.returns = instr.returns := by rw [returns, hd, Option.any_some]
  rw [hc, hr]
  rcases hflow.stack_cases with
    ⟨hcalls, hreturns, hdepth, hs⟩ | ⟨hcalls, hreturns, addr, hs, hnext⟩ | ⟨hcalls, hreturns, hs⟩
  · have hbounds := Machine.pc_of_fetch _ _ h.fetch
    have haddr := toNat_ofInt_of_lt (e.before.registers.pc + 2) (by omega) (by omega)
    exact Or.inl ⟨hcalls, hreturns, hdepth, _, hs, haddr⟩
  · have hlt := addr.toNat_lt
    have hmod : (addr.toNat : Int) % 65536 = addr.toNat := by omega
    rw [hnext, hmod] at hpc
    exact Or.inr (Or.inl ⟨hcalls, hreturns, addr, hs, hpc⟩)
  · exact Or.inr (Or.inr ⟨hcalls, hreturns, hs⟩)

theorem Genuine.depth_eq {e : Executed σ} (h : e.Genuine) :
    (e.after.depth + if e.returns then 1 else 0) = (e.before.depth + if e.calls then 1 else 0) ∧
      (e.before.depth ≤ 16 → e.after.depth ≤ 16) := by
  rcases h.stack_cases with
    ⟨hc, hr, hlt, addr, hs, -⟩ | ⟨hc, hr, addr, hs, -⟩ | ⟨hc, hr, hs⟩
  · have hlen : e.after.depth = e.before.depth + 1 := congrArg List.length hs
    rw [hc, hr, hlen]
    exact ⟨rfl, fun _ => hlt⟩
  · have hlen : e.before.depth = e.after.depth + 1 := congrArg List.length hs
    rw [hc, hr, hlen]
    exact ⟨rfl, Nat.le_of_succ_le⟩
  · have hlen : e.after.depth = e.before.depth := congrArg List.length hs
    rw [hc, hr, hlen]
    exact ⟨rfl, id⟩

end Executed

/-- Instructions executed one after another, from one stack to another, with nothing between them
that touches the stack. -/
def Linked : List UInt16 → List (Executed σ) → List UInt16 → Prop
  | stack, [], stack' => stack' = stack
  | stack, e :: es, stack' => e.before.registers.stack = stack ∧ e.Genuine ∧
    Linked e.after.registers.stack es stack'

namespace Linked

variable {stack stack' : List UInt16} {es fs : List (Executed σ)}

theorem append_iff : Linked stack (es ++ fs) stack' ↔
    ∃ middle, Linked stack es middle ∧ Linked middle fs stack' := by
  induction es generalizing stack with
  | nil =>
    constructor
    · intro h
      exact ⟨stack, rfl, h⟩
    · rintro ⟨middle, rfl, h⟩
      exact h
  | cons e es ih =>
    rw [List.cons_append]
    constructor
    · rintro ⟨hb, hg, h⟩
      obtain ⟨middle, h1, h2⟩ := ih.mp h
      exact ⟨middle, ⟨hb, hg, h1⟩, h2⟩
    · rintro ⟨middle, ⟨hb, hg, h1⟩, h2⟩
      exact ⟨hb, hg, ih.mpr ⟨middle, h1, h2⟩⟩

theorem length_eq (h : Linked stack es stack') (hd : stack.length ≤ 16) :
    stack'.length + es.countP Executed.returns = stack.length + es.countP Executed.calls ∧
      stack'.length ≤ 16 := by
  induction es generalizing stack with
  | nil =>
    have hs : stack' = stack := h
    rw [hs]
    exact ⟨rfl, hd⟩
  | cons e es ih =>
    obtain ⟨rfl, hg, h⟩ := h
    obtain ⟨hdepth, hbound⟩ := hg.depth_eq
    obtain ⟨hlen, hle⟩ := ih h (hbound hd)
    change e.after.depth + _ = _ at hdepth
    rw [List.countP_cons, List.countP_cons]
    refine ⟨?_, hle⟩
    unfold Machine.depth at hdepth
    omega

/-- What lies on the stack stays there until a return takes the topmost of it. -/
theorem keeps_base (addr : UInt16) (base : List UInt16) (top : List UInt16)
    (h : Linked (top ++ addr :: base) es stack')
    (hnone : ∀ e ∈ es, e.returns = true → e.before.depth ≠ base.length + 1) :
    ∃ top', stack' = top' ++ addr :: base := by
  induction es generalizing top with
  | nil => exact ⟨top, h⟩
  | cons e es ih =>
    obtain ⟨hb, hg, h⟩ := h
    have hrest : ∀ e ∈ es, e.returns = true → e.before.depth ≠ base.length + 1 :=
      fun e he => hnone e (List.mem_cons_of_mem _ he)
    rcases hg.stack_cases with
      ⟨-, -, -, pushed, hs, -⟩ | ⟨-, hr, popped, hs, -⟩ | ⟨-, -, hs⟩
    · rw [hs, hb] at h
      exact ih (pushed :: top) h hrest
    · cases top with
      | nil =>
        have hdepth : e.before.depth = base.length + 1 := congrArg List.length hb
        exact absurd hdepth (hnone e List.mem_cons_self hr)
      | cons first top =>
        rw [hb, List.cons_append, List.cons.injEq] at hs
        rw [← hs.2] at h
        exact ih top h hrest
    · rw [hs, hb] at h
      exact ih top h hrest

end Linked

/-- As many return addresses are on the stack as calls have been executed without their return. -/
structure Balanced (seen : List (Executed σ)) (m : Machine σ) : Prop where
  depth : m.depth + seen.countP Executed.returns = seen.countP Executed.calls
  bound : m.depth ≤ 16

/-- Calls and returns match: the stack is balanced before and after every instruction and at the end,
and the first return at the depth of a call goes on behind the call, with the stack from before it. -/
structure CallsMatch (log : List (Executed σ)) (m : Machine σ) : Prop where
  genuine : ∀ e ∈ log, e.Genuine
  balanced : ∀ seen e rest, log = seen ++ e :: rest →
    Balanced seen e.before ∧ Balanced (seen ++ [e]) e.after
  balanced_end : Balanced log m
  returns_back : ∀ seen call between ret rest, log = seen ++ call :: (between ++ ret :: rest) →
    call.calls = true → ret.returns = true → ret.before.depth = call.before.depth + 1 →
    (∀ e ∈ between, e.returns = true → e.before.depth ≠ call.before.depth + 1) →
    ret.after.pc = call.before.pc + 2 ∧
      ret.after.registers.stack = call.before.registers.stack

namespace Linked

variable {log : List (Executed σ)} {m : Machine σ}

theorem balanced_of_empty (h : Linked [] log m.registers.stack) : Balanced log m := by
  obtain ⟨hlen, hle⟩ := h.length_eq (Nat.zero_le _)
  rw [List.length_nil, Nat.zero_add] at hlen
  exact ⟨hlen, hle⟩

theorem split {stack stack' : List UInt16} (seen rest : List (Executed σ)) (e : Executed σ)
    (h : Linked stack (seen ++ e :: rest) stack') :
    e.Genuine ∧ Linked stack seen e.before.registers.stack ∧
      Linked stack (seen ++ [e]) e.after.registers.stack ∧
      Linked e.after.registers.stack rest stack' := by
  obtain ⟨middle, hseen, hb, hg, hrest⟩ := append_iff.mp h
  rw [← hb] at hseen
  exact ⟨hg, hseen, append_iff.mpr ⟨_, hseen, rfl, hg, rfl⟩, hrest⟩

theorem returns_back {stack stack' : List UInt16} (between rest : List (Executed σ))
    (call ret : Executed σ) (h : Linked stack (call :: (between ++ ret :: rest)) stack')
    (hcall : call.calls = true) (hret : ret.returns = true)
    (hdepth : ret.before.depth = call.before.depth + 1)
    (hfirst : ∀ e ∈ between, e.returns = true → e.before.depth ≠ call.before.depth + 1) :
    ret.after.pc = call.before.pc + 2 ∧
      ret.after.registers.stack = call.before.registers.stack := by
  obtain ⟨-, hg, h⟩ := h
  obtain ⟨hg', hbetween, -, -⟩ := h.split
  -- The call has pushed the address behind it, and that is still there at the return.
  obtain ⟨-, -, -, addr, hpushed, haddr⟩ | ⟨hc, -⟩ | ⟨hc, -⟩ := hg.stack_cases
  · rw [hpushed] at hbetween
    obtain ⟨top, htop⟩ := keeps_base addr call.before.registers.stack [] hbetween hfirst
    have hlen := congrArg List.length htop
    have htop' : top = [] := by
      change ret.before.depth = _ at hlen
      rw [hdepth, List.length_append, List.length_cons] at hlen
      change call.before.registers.stack.length + 1 = _ at hlen
      exact List.length_eq_zero_iff.mp (by omega)
    rw [htop', List.nil_append] at htop
    obtain ⟨-, hr, -⟩ | ⟨-, -, popped, hpopped, hpc⟩ | ⟨-, hr, -⟩ := hg'.stack_cases
    · exact absurd (hret.symm.trans hr) Bool.false_ne_true.symm
    · rw [htop, List.cons.injEq] at hpopped
      obtain ⟨rfl, hs⟩ := hpopped
      exact ⟨hpc.trans haddr, hs.symm⟩
    · exact absurd (hret.symm.trans hr) Bool.false_ne_true.symm
  · exact absurd (hcall.symm.trans hc) Bool.false_ne_true.symm
  · exact absurd (hcall.symm.trans hc) Bool.false_ne_true.symm

theorem callsMatch (h : Linked [] log m.registers.stack) : CallsMatch log m where
  genuine e he := by
    obtain ⟨seen, rest, rfl⟩ := List.append_of_mem he
    exact h.split.1
  balanced seen e rest hlog := by
    rw [hlog] at h
    obtain ⟨-, hb, ha, -⟩ := h.split
    exact ⟨hb.balanced_of_empty, ha.balanced_of_empty⟩
  balanced_end := h.balanced_of_empty
  returns_back seen call between ret rest hlog hcall hret hdepth hfirst := by
    rw [hlog] at h
    obtain ⟨middle, -, h⟩ := append_iff.mp h
    exact h.returns_back between rest call ret hcall hret hdepth hfirst

end Linked

namespace Machine

theorem logged_linked (start : List UInt16) :
    Logged fun seen (m : Machine σ) => Linked start seen m.registers.stack where
  step seen m w m' hf hs h := Linked.append_iff.mpr ⟨_, h, rfl, ⟨hf, hs⟩, rfl⟩
  rest seen m m' hr h := by
    rw [hr.stack]
    exact h

/-- Whatever program a machine starts with and however it is driven, its log has an instruction for
each cycle, and calls and returns match in it. -/
theorem calls_match_returns (surface : σ) (random : RandomSource) (memory : Memory)
    (events : List Event) (he : ∀ event ∈ events, event.handsOff) :
    let m : Machine σ := { surface, random, memory }
    (m.afterAll events).cycles = (m.log events).length ∧
      CallsMatch (m.log events) (m.afterAll events) := by
  intro m
  have hcycles := length_log m events he
  rw [Nat.zero_add] at hcycles
  have hlinked := (logged_linked []).log [] m events he rfl
  exact ⟨hcycles, hlinked.callsMatch⟩

def nestedCalls : Memory :=
  .holding [0x22, 0x06, 0x12, 0x02, 0x00, 0x00, 0x22, 0x0A, 0x00, 0xEE, 0x00, 0xEE] (by decide)

/-- The program is interrupted by a tick and a key between its last return and its jump. -/
theorem calls_match_returns_nested :
    let m : Machine Display := { surface := .standard, random := .zeros, memory := nestedCalls }
    let events : List Event := [.run true 4, .tick, .pressKey 3, .step]
    (∀ event ∈ events, event.handsOff) ∧
      (m.log events).map (·.word) = [0x2206, 0x220A, 0x00EE, 0x00EE, 0x1202] ∧
      (m.afterAll events).cycles = (m.log events).length ∧
      CallsMatch (m.log events) (m.afterAll events) :=
  ⟨by decide, by decide +kernel, calls_match_returns _ _ _ _ (by decide)⟩

end Machine

end Chip8
