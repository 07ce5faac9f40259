import Chip8.Debugger.Layout
import Chip8.Proofs.Registers.PanelText
import Chip8.Proofs.Surface.Pictures

namespace Chip8

open Text

namespace Registers

variable (r : Registers) (before : Option Snapshot)

theorem lacks_break_cell (k : Fin 20) : Lacks ['\n'] (cell r.snapshot before k) := by
  have hentry : Lacks ['\n'] (r.entryText k) := by
    intro c hc
    exact r.lacks_entryText k c (List.mem_cons_of_mem _ hc)
  have hopening : Lacks ['\n'] "[bold yellow]" := by decide
  have hclosing : Lacks ['\n'] "[/bold yellow]" := by decide
  cases before with
  | none =>
    rw [cell_none]
    exact hentry
  | some before =>
    rw [cell_some]
    split
    · exact hentry
    · exact (hopening.append hentry).append hclosing

theorem lacks_break_stackLine : Lacks ['\n'] r.stackLine := by
  intro c hc
  rw [List.mem_singleton.mp hc, toList_stackLine, List.mem_append, List.mem_append,
    List.mem_append, not_or, not_or, not_or]
  exact ⟨r.lacks_depthText '\n' (by decide), by decide, r.lacks_stackText '\n' (by decide),
    by decide⟩

theorem lines_panel : lines (r.panel before) = r.panelLines before := by
  apply lines_intercalate
  · exact List.append_ne_nil_of_right_ne_nil _ (List.cons_ne_nil _ _)
  · intro line hline
    have hrow (ks : List (Fin 20)) :
        Lacks ['\n'] ("  ".intercalate (ks.map (cell r.snapshot before))) := by
      apply Lacks.intercalate
      · decide
      · intro text htext
        obtain ⟨k, -, rfl⟩ := List.mem_map.mp htext
        exact r.lacks_break_cell before k
    have hempty : Lacks ['\n'] "" := by decide
    suffices Lacks ['\n'] line from this '\n' List.mem_cons_self
    simp only [panelLines, List.mem_append, List.mem_map, List.mem_cons, List.not_mem_nil,
      or_false] at hline
    obtain ⟨ks, -, rfl⟩ | rfl | rfl | rfl := hline
    · exact hrow ks
    · exact hempty
    · exact hrow special
    · exact r.lacks_break_stackLine

end Registers

namespace Picture

theorem lacks_break_keyCell (isPressed : Int → Bool) (key : Fin 16) :
    Lacks ['\n'] (keyCell isPressed key) := by
  have hkey : ∀ (held : Bool) (key : Fin 16),
      Lacks ['\n'] (keyCell (fun _ => held) key) := by decide +kernel
  exact hkey (isPressed key.val) key

theorem lines_keypadLines (isPressed : Int → Bool) :
    lines ("\n".intercalate (keypadLines isPressed)) = keypadLines isPressed := by
  apply lines_intercalate
  · exact List.cons_ne_nil _ _
  · intro line hline
    obtain ⟨row, -, rfl⟩ := List.mem_map.mp hline
    have hrow : Lacks ['\n'] (" ".intercalate (row.map (keyCell isPressed))) := by
      apply Lacks.intercalate
      · decide
      · intro text htext
        obtain ⟨key, -, rfl⟩ := List.mem_map.mp htext
        exact lacks_break_keyCell isPressed key
    exact hrow '\n' List.mem_cons_self

end Picture

namespace Debugger

def controls : List Char := ['[', ']', '\\', '\n']

theorem lacks_stateText {σ : Type} (m : Machine σ) : Lacks controls (stateText m) := by
  have hwaiting : Lacks controls "WAIT KEY -> V" := by decide
  unfold stateText
  split
  · decide
  · split
    · exact hwaiting.append (lacks_hex (by decide) 1 _)
    · decide

theorem lacks_address (addr : Int) : Lacks controls (address addr) := by
  have hlead : Lacks controls "0x" := by decide
  exact hlead.append (lacks_hex (by decide) 3 addr)

/-- The sizes of the parts fit the texts in them. A frame takes two lines, and the picture has room
for two columns on either side. -/
structure Layout.Fits (l : Layout) : Prop where
  status : l.status.region.size = some ((lines l.status.text).length + 2 : Nat)
  screen : ∀ line ∈ lines l.screen.text, l.screen.region.size = some (line.length + 4 : Nat)
  top : ∃ height : Nat, l.top.size = some (height : Int) ∧
    (lines l.screen.text).length + 2 ≤ height
  keypad : l.keypad.region.size = some ((lines l.keypad.text).length + 2 : Nat)
  registers : ∃ height below : Nat, l.top.size = some (height : Int) ∧
    l.keypad.region.size = some (below : Int) ∧
    (lines l.registers.text).length + 2 ≤ height - below

namespace Session

variable (s : Session) (message : String)

theorem lacks_breakpointText : Lacks controls s.breakpointText := by
  unfold breakpointText
  split
  · decide
  · apply Lacks.intercalate
    · decide
    · intro text htext
      obtain ⟨addr, -, rfl⟩ := List.mem_map.mp htext
      exact lacks_address addr

theorem lacks_stateLine : Lacks controls s.stateLine := by
  have hsound (on : Bool) : Lacks controls (if on then "ON" else "off") := by
    revert on
    decide
  apply Lacks.intercalate
  · decide
  · intro text htext
    simp only [List.mem_cons, List.not_mem_nil, or_false] at htext
    obtain rfl | rfl | rfl | rfl | rfl := htext
    · exact (by decide : Lacks controls "PC: ").append (lacks_address _)
    · exact (by decide : Lacks controls "Cycles: ").append (lacks_decimal (by decide) _)
    · exact (by decide : Lacks controls "State: ").append (lacks_stateText _)
    · exact (by decide : Lacks controls "Sound: ").append (hsound _)
    · exact (by decide : Lacks controls "Breakpoints: ").append s.lacks_breakpointText

theorem length_lines_status :
    (lines (s.layoutWith message).status.text).length = lineCount message + 1 := by
  have hline : lines s.stateLine = [s.stateLine] := by
    rw [lines, List.splitOn_eq_singleton (s.lacks_stateLine '\n' (by decide)), List.map_singleton,
      String.ofList_toList]
  show (lines (s.stateLine ++ "\n" ++ message)).length = _
  rw [lines_append_break, hline, List.length_append, length_lines, List.length_singleton,
    Nat.add_comm]
  rfl

theorem length_lines_keypad : (lines (s.layoutWith message).keypad.text).length = 4 := by
  show (lines ("\n".intercalate (Picture.keypadLines _))).length = 4
  rw [Picture.lines_keypadLines]
  rfl

theorem length_lines_registers : (lines (s.layoutWith message).registers.text).length = 7 := by
  show (lines (s.machine.registers.panel _)).length = 7
  rw [Registers.lines_panel]
  rfl

theorem screen_lossless :
    Surface.Lossless s.machine.surface s.machine.surface.width s.machine.surface.height :=
  Surface.lossless _ _ _ s.machine.surface.height_pos

/-- Whatever the message, the parts of the screen are as large as what they show. -/
theorem layout_fits : (s.layoutWith message).Fits where
  status := by
    -- The frame, the line above the message, and the message.
    have hheight : border + 1 + lineCount message = lineCount message + 1 + 2 := by
      unfold border
      omega
    rw [length_lines_status, ← hheight]
    rfl
  screen line hline := by
    rw [s.screen_lossless.blockWidth line hline]
    rfl
  top := by
    refine ⟨max (border + (s.machine.surface.height + 1) / 2) topHeight, rfl, ?_⟩
    have hlines : (lines (s.layoutWith message).screen.text).length =
        (s.machine.surface.height + 1) / 2 := s.screen_lossless.blockLines
    have hborder : border = 2 := rfl
    omega
  keypad := by
    rw [length_lines_keypad]
    rfl
  registers := by
    refine ⟨max (border + (s.machine.surface.height + 1) / 2) topHeight, 6, rfl, rfl, ?_⟩
    have hleast : topHeight = 17 := rfl
    -- Seven lines in a frame are two less than what the keypad leaves of the least height.
    rw [length_lines_registers]
    omega

end Session

end Debugger

end Chip8
