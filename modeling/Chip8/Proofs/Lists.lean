namespace Chip8

/-- If each event gives a value or leaves the one that there is, a history leaves the value that was
given last. That may hold only of states of some kind, which no event leaves. -/
theorem foldl_last_given {σ ε α : Type} (step : σ → ε → σ) (value : σ → α) (given? : ε → Option α)
    (P : σ → Prop) (hkept : ∀ s event, P s → P (step s event))
    (hstep : ∀ s event, P s → value (step s event) = (given? event).getD (value s))
    (s : σ) (hs : P s) (events : List ε) :
    value (events.foldl step s) = (events.filterMap given?).getLast?.getD (value s) := by
  induction events generalizing s with
  | nil => rfl
  | cons event events ih =>
    rw [List.foldl_cons, ih (step s event) (hkept s event hs), hstep s event hs]
    cases hg : given? event with
    | none => rw [List.filterMap_cons_none hg, Option.getD_none]
    | some a =>
      rw [List.filterMap_cons_some hg, List.getLast?_cons, Option.getD_some, Option.getD_some]

theorem filterMap_filter_of_none {ε α : Type} (given? : ε → Option α) (counts : ε → Bool)
    (h : ∀ event, counts event = false → given? event = none) (events : List ε) :
    (events.filter counts).filterMap given? = events.filterMap given? := by
  rw [List.filterMap_filter]
  congr 1
  funext event
  cases hc : counts event with
  | true => rfl
  | false => exact (h event hc).symm

section

variable {α : Type} (gap : List α) (cells : List (List α)) (width : Nat)

theorem length_intercalate (h : ∀ cell ∈ cells, cell.length = width) :
    (gap.intercalate cells).length = cells.length * width + (cells.length - 1) * gap.length := by
  induction cells with
  | nil => simp
  | cons first cells ih =>
    have hfirst := h first List.mem_cons_self
    have hrest := ih fun cell hcell => h cell (List.mem_cons_of_mem first hcell)
    cases cells with
    | nil => simp [hfirst]
    | cons second cells =>
      rw [List.intercalate_cons_cons, List.length_append, List.length_append, hfirst, hrest]
      simp only [List.length_cons, Nat.add_sub_cancel, Nat.succ_mul]
      omega

theorem mem_intercalate (a : α) (h : a ∈ gap.intercalate cells) :
    a ∈ gap ∨ ∃ cell ∈ cells, a ∈ cell := by
  induction cells with
  | nil => exact absurd h List.not_mem_nil
  | cons first cells ih =>
    cases cells with
    | nil =>
      rw [List.intercalate_singleton] at h
      exact Or.inr ⟨first, List.mem_cons_self, h⟩
    | cons second cells =>
      rw [List.intercalate_cons_cons, List.mem_append, List.mem_append] at h
      rcases h with (h | h) | h
      · exact Or.inr ⟨first, List.mem_cons_self, h⟩
      · exact Or.inl h
      · apply (ih h).imp_right
        rintro ⟨cell, hcell, ha⟩
        exact ⟨cell, List.mem_cons_of_mem first hcell, ha⟩

theorem take_drop_intercalate (h : ∀ cell ∈ cells, cell.length = width) (k : Nat)
    (cell : List α) (hk : cells[k]? = some cell) (rest : List α) :
    ((gap.intercalate cells ++ rest).drop (k * (width + gap.length))).take width = cell := by
  induction cells generalizing k with
  | nil => simp at hk
  | cons first cells ih =>
    have hfirst := h first List.mem_cons_self
    have hlater := ih fun cell hcell => h cell (List.mem_cons_of_mem first hcell)
    cases k with
    | zero =>
      rw [List.getElem?_cons_zero, Option.some.injEq] at hk
      rw [Nat.zero_mul, List.drop_zero, ← hk]
      cases cells with
      | nil => rw [List.intercalate_singleton, List.take_left' hfirst]
      | cons second cells =>
        rw [List.intercalate_cons_cons, List.append_assoc, List.append_assoc,
          List.take_left' hfirst]
    | succ k =>
      rw [List.getElem?_cons_succ] at hk
      cases cells with
      | nil => simp at hk
      | cons second cells =>
        -- The first cell and the gap after it are passed over.
        have hlength : (first ++ gap).length = width + gap.length := by
          rw [List.length_append, hfirst]
        rw [List.intercalate_cons_cons, List.append_assoc (first ++ gap), Nat.succ_mul,
          Nat.add_comm, ← List.drop_drop, List.drop_left' hlength]
        exact hlater k hk

end

/-- What holds of parts, and of what is put together of such, holds of parts that are joined. -/
theorem rel_intercalate {α β ι : Type} {R : List α → List β → Prop} (hnil : R [] [])
    (happend : ∀ {a a' b b'}, R a a' → R b b' → R (a ++ b) (a' ++ b'))
    {gap : List α} {gap' : List β} (hgap : R gap gap') {items : List ι}
    {f : ι → List α} {f' : ι → List β} (h : ∀ i ∈ items, R (f i) (f' i)) :
    R (gap.intercalate (items.map f)) (gap'.intercalate (items.map f')) := by
  induction items with
  | nil => exact hnil
  | cons first items ih =>
    have hfirst := h first List.mem_cons_self
    have hrest := ih fun i hi => h i (List.mem_cons_of_mem first hi)
    cases items with
    | nil =>
      rw [List.map_singleton, List.map_singleton, List.intercalate_singleton,
        List.intercalate_singleton]
      exact hfirst
    | cons second items =>
      rw [List.map_cons, List.map_cons] at hrest ⊢
      rw [List.map_cons, List.map_cons, List.intercalate_cons_cons, List.intercalate_cons_cons]
      exact happend (happend hfirst hgap) hrest

theorem nil_intercalate {α : Type} (cells : List (List α)) :
    [].intercalate cells = cells.flatten := by
  induction cells with
  | nil => rfl
  | cons first cells ih =>
    cases cells with
    | nil => rw [List.intercalate_singleton, List.flatten_cons, List.flatten_nil, List.append_nil]
    | cons second cells => rw [List.flatten_cons, ← ih, List.intercalate_cons_cons, List.append_nil]

theorem mapM_map_of_forall {α β γ : Type} (write : α → β) (read : β → Option γ) (value : α → γ)
    (items : List α) (h : ∀ a ∈ items, read (write a) = some (value a)) :
    (items.map write).mapM read = some (items.map value) := by
  induction items with
  | nil => rfl
  | cons a items ih =>
    have hfirst := h a List.mem_cons_self
    have hrest := ih fun b hb => h b (List.mem_cons_of_mem a hb)
    rw [List.map_cons, List.mapM_cons, hfirst, hrest]
    rfl

end Chip8
