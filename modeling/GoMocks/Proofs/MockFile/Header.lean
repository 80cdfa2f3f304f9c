import GoMocks.Proofs.MockFile.Rendering
import GoMocks.Proofs.ShellWords
import GoMocks.Tool

/-!
# Mock files — the recorded command

The header of a mock file records the command line that wrote it, in one line of a comment.

* `MockFile.textLines_ofLines`: the lines of a text, where some of the lines it was made of go on
  over more than one.
* `MockFile.command_recorded`: the header holds the command on one line, and a shell takes it apart
  into the arguments; where exactly that is so.
-/

namespace GoMocks.MockFile

open ShellWords (IsKept)
open Template (ofLines ofLines_cons)

/-! ### Lines of a text -/

/-- The lines of a text, the one behind the last newline included. -/
def textLines (text : String) : List String :=
  (text.toList.splitOn '\n').map .ofList

/-- Is the line empty or a comment? -/
def IsQuiet (line : String) : Prop :=
  line = "" ∨ "//".toList <+: line.toList

instance (line : String) : Decidable (IsQuiet line) :=
  inferInstanceAs (Decidable (_ ∨ _))

variable {line text : String} {file : MockFile}

/-- The lines of two texts with a line break between them. -/
theorem textLines_newline (line text : String) :
    textLines (line ++ "\n" ++ text) = textLines line ++ textLines text := by
  have hsplit : (line.toList ++ '\n' :: text.toList).splitOn '\n' =
      line.toList.splitOn '\n' ++ text.toList.splitOn '\n' :=
    List.splitOnP_append_cons _ _ (by simp)
  simp [textLines, hsplit]

/-- A text is one line when it has no line break. -/
theorem textLines_eq_singleton_iff : textLines text = [text] ↔ '\n' ∉ text.toList := by
  constructor
  · intro h hnewline
    obtain ⟨cs, ds, hcs⟩ := List.append_of_mem hnewline
    have htext : text = .ofList cs ++ "\n" ++ .ofList ds := by
      simp [← String.toList_inj, hcs]
    have hlength := congrArg List.length h
    rw [htext, textLines_newline] at hlength
    have hpos (s : String) : 0 < (textLines s).length := by
      simp [textLines, List.length_pos_iff]
    have hfirst := hpos (.ofList cs)
    have hsecond := hpos (.ofList ds)
    rw [List.length_append, List.length_singleton] at hlength
    omega
  · intro h
    simp [textLines, List.splitOn_eq_singleton h]

/-- A text in front of the first line. -/
theorem textLines_append (line : String) (h : '\n' ∉ line.toList) (text : String) :
    ∃ first more, textLines text = first :: more ∧
      textLines (line ++ text) = (line ++ first) :: more := by
  have hfront (cs ds : List Char) (hcs : '\n' ∉ cs) :
      (cs ++ ds).splitOn '\n' = (ds.splitOn '\n').modifyHead (cs ++ ·) := by
    induction cs with
    | nil => cases hsplit : ds.splitOn '\n' <;> simp [hsplit]
    | cons c cs ih =>
      obtain ⟨hc, hmore⟩ := List.ne_and_not_mem_of_not_mem_cons hcs
      rw [List.cons_append, List.splitOn, List.splitOnP_cons_eq_if_modifyHead,
        if_neg (by simpa using hc.symm)]
      change ((cs ++ ds).splitOn '\n').modifyHead _ = _
      rw [ih hmore]
      cases ds.splitOn '\n' <;> rfl
  obtain ⟨first, more, hsplit⟩ := List.exists_cons_of_ne_nil
    (show text.toList.splitOn '\n' ≠ [] from List.splitOnP_ne_nil _ _)
  refine ⟨.ofList first, more.map .ofList, by simp [textLines, hsplit], ?_⟩
  rw [textLines, String.toList_append, hfront _ _ h, hsplit]
  simp [String.ofList_append]

/-- The lines of a text that is made of lines. -/
theorem textLines_ofLines (lines : List String) :
    textLines (ofLines lines) = lines.flatMap textLines ++ [""] := by
  induction lines with
  | nil => rfl
  | cons line lines ih =>
    rw [ofLines_cons, ← String.append_assoc, textLines_newline, ih, List.flatMap_cons,
      List.append_assoc]

/-! ### The header -/

/-- The lines in front of the package clause. -/
def recordLines (file : MockFile) : List String :=
  ["// Code generated by " ++ file.tool ++ " " ++ file.version ++ ", DO NOT EDIT.", "//",
    "// Command:"] ++ textLines ("// $ " ++ file.command) ++ [""]

/-- A command has more than one line where one of its words has. -/
theorem newline_mem_join_iff (args : List String) :
    '\n' ∈ (ShellWords.join args).toList ↔ ∃ arg ∈ args, '\n' ∈ arg.toList := by
  have hescape (c : Char) : '\n' ∈ ShellWords.escapeQuote c ↔ '\n' = c := by
    rw [ShellWords.escapeQuote]
    split
    · next hc => simp [hc]
    · simp
  have hquote (w : List Char) : '\n' ∈ ShellWords.quote w ↔ '\n' ∈ w := by
    rw [ShellWords.quote]
    split <;> simp [hescape]
  induction args with
  | nil => simp [ShellWords.join]
  | cons arg args ih =>
    cases args with
    | nil => simp [ShellWords.join, hquote]
    | cons next args =>
      have hjoin : ShellWords.join (arg :: next :: args) =
          .ofList (ShellWords.quote arg.toList) ++ " " ++ ShellWords.join (next :: args) := by
        simp [ShellWords.join, String.intercalate_cons_cons]
      have hword : '\n' ∈ (String.ofList (ShellWords.quote arg.toList) ++ " ").toList ↔
          '\n' ∈ arg.toList := by
        simp [hquote]
      rw [hjoin, String.toList_append, List.exists_mem_cons_iff]
      exact List.mem_append.trans (or_congr hword ih)

/-- The lines of a file begin with those that record its command. -/
theorem exists_textLines_eq (file : MockFile) (htool : '\n' ∉ file.tool.toList)
    (hversion : '\n' ∉ file.version.toList) (groups : List (List ImportView)) :
    ∃ clause behind,
      textLines (ofLines (file.lines groups)) = recordLines file ++ ("package " ++ clause) :: behind := by
  obtain ⟨clause, more, -, hclause⟩ := textLines_append "package " (by decide) file.name
  have hgenerated : '\n' ∉ ("// Code generated by " ++ file.tool ++ " " ++ file.version ++
      ", DO NOT EDIT.").toList := by
    simp [htool, hversion]
  refine ⟨clause, more ++ ((importLines groups ++
    file.interfaces.flatMap (interfaceLines file)).flatMap textLines ++ [""]), ?_⟩
  rw [textLines_ofLines, lines, headerLines, recordLines]
  simp only [List.append_assoc, List.cons_append, List.nil_append, List.flatMap_cons, hclause,
    textLines_eq_singleton_iff.mpr hgenerated]
  rfl

/-- **The header records the command.** A shell takes the recorded command apart into the arguments,
exactly when each of them is kept: it is put between quotes, or it has no backslash. The embedded
template writes the command into the header, in front of the package clause, if the columns of the
mocks are within the limit. It stands there on a line of its own, exactly when no argument has a
newline, and then all lines of the header are comments or empty; else the lines that begin within an
argument have to be. -/
theorem command_recorded (args : List String) (file : MockFile)
    (hcommand : file.command = ShellWords.join args) (htool : '\n' ∉ file.tool.toList)
    (hversion : '\n' ∉ file.version.toList) :
    (ShellWords.split file.command = some args ↔ ∀ arg ∈ args, IsKept arg) ∧
    (file.FitsWidth → ∃ nodes source clause behind, template = .ok nodes ∧
      render nodes file = .ok source ∧
      textLines source = recordLines file ++ ("package " ++ clause) :: behind) ∧
    ((∀ arg ∈ args, '\n' ∉ arg.toList) ↔ recordLines file =
      ["// Code generated by " ++ file.tool ++ " " ++ file.version ++ ", DO NOT EDIT.", "//",
        "// Command:", "// $ " ++ file.command, ""]) ∧
    ((∀ arg ∈ args, '\n' ∉ arg.toList) → ∀ line ∈ recordLines file, IsQuiet line) ∧
    ((∀ line ∈ recordLines file, IsQuiet line) ↔
      ∀ line ∈ (textLines file.command).tail, IsQuiet line) := by
  obtain ⟨first, more, hfirst, hlines⟩ := textLines_append "// $ " (by decide) file.command
  have hnewline : (∀ arg ∈ args, '\n' ∉ arg.toList) ↔ '\n' ∉ file.command.toList := by
    rw [hcommand, newline_mem_join_iff]
    simp
  have hcomment {s : String} (hs : "//".toList <+: s.toList) (t : String) : IsQuiet (s ++ t) := by
    rw [IsQuiet, String.toList_append]
    exact .inr (hs.trans (List.prefix_append _ _))
  -- only the lines that begin within the command may be something else than comments
  have hquiet : (∀ line ∈ recordLines file, IsQuiet line) ↔
      ∀ line ∈ (textLines file.command).tail, IsQuiet line := by
    rw [recordLines, hlines, hfirst]
    have hgenerated : IsQuiet ("// Code generated by " ++ file.tool ++ " " ++ file.version ++
        ", DO NOT EDIT.") := by
      simp only [String.append_assoc]
      exact hcomment (by decide) _
    have hline := hcomment (s := "// $ ") (by decide) first
    have hfixed : IsQuiet "//" ∧ IsQuiet "// Command:" ∧ IsQuiet "" := by decide
    simp [hgenerated, hline, hfixed, or_imp, forall_and]
  refine ⟨by rw [hcommand, ShellWords.split_join_iff], fun hwidth => ?_, ?_, fun h => ?_, hquiet⟩
  · obtain ⟨clause, behind, heq⟩ := exists_textLines_eq file htool hversion file.groupViews
    exact ⟨_, _, clause, behind, template_eq, render_template file hwidth, heq⟩
  · have hline : textLines ("// $ " ++ file.command) = ["// $ " ++ file.command] ↔
        '\n' ∉ file.command.toList := by
      rw [textLines_eq_singleton_iff]
      simp
    rw [hnewline, ← hline, recordLines]
    constructor
    · intro heq
      rw [heq]
      rfl
    · intro heq
      have hbehind : textLines ("// $ " ++ file.command) ++ [""] =
          ["// $ " ++ file.command] ++ [""] := by simpa using heq
      exact List.append_cancel_right hbehind
  · rw [hquiet]
    have hsingle := textLines_eq_singleton_iff.mpr (hnewline.mp h)
    simp [hsingle]

/-- A mock file without mocks that records a command. -/
def recordOf (args : List String) : MockFile :=
  { (default : MockFile) with
    tool := Tool.name, version := Tool.version, command := ShellWords.join args, name := "mocks" }

/-- Arguments with blanks and quotes, an empty one, and a backslash between quotes. -/
theorem command_recorded_quotes :
    let args := ["mockgen", "gen", "my dir/...", "it's \"x\"", "", "a \\b"]
    ('\n' ∉ (recordOf args).tool.toList ∧ '\n' ∉ (recordOf args).version.toList) ∧
      ((∀ arg ∈ args, IsKept arg) ∧ ∀ arg ∈ args, '\n' ∉ arg.toList) ∧
      (recordOf args).command = "mockgen gen 'my dir/...' 'it'\\''s \"x\"' '' 'a \\b'" ∧
      ShellWords.split (recordOf args).command = some args ∧
      ∀ line ∈ recordLines (recordOf args), IsQuiet line := by
  intro args
  have htool : '\n' ∉ (recordOf args).tool.toList := by decide +kernel
  have hversion : '\n' ∉ (recordOf args).version.toList := by decide +kernel
  have hkept : ∀ arg ∈ args, IsKept arg := by decide +kernel
  have hnewline : ∀ arg ∈ args, '\n' ∉ arg.toList := by decide +kernel
  obtain ⟨hsplit, -, -, hquiet, -⟩ := command_recorded args (recordOf args) rfl htool hversion
  exact ⟨⟨htool, hversion⟩, ⟨hkept, hnewline⟩, by decide +kernel, hsplit.mpr hkept, hquiet hnewline⟩

/-- Some commands are not recorded. A shell drops a backslash that no quotes stand around, and behind
a newline the rest of an argument is no comment. -/
theorem command_misrecorded :
    (ShellWords.join ["gen", "a\\b"] = "gen a\\b" ∧
      ShellWords.split (ShellWords.join ["gen", "a\\b"]) = some ["gen", "ab"]) ∧
    ¬ IsQuiet "b'" ∧ ∃ nodes source front clause behind, template = .ok nodes ∧
      render nodes (recordOf ["gen", "a\nb"]) = .ok source ∧
      textLines source = front ++ "// $ gen 'a" :: "b'" :: "" :: ("package " ++ clause) :: behind := by
  have htool : '\n' ∉ (recordOf ["gen", "a\nb"]).tool.toList := by decide +kernel
  have hversion : '\n' ∉ (recordOf ["gen", "a\nb"]).version.toList := by decide +kernel
  obtain ⟨clause, behind, hlines⟩ :=
    exists_textLines_eq (recordOf ["gen", "a\nb"]) htool hversion (recordOf ["gen", "a\nb"]).groupViews
  have hwidth : (recordOf ["gen", "a\nb"]).FitsWidth := by decide
  have hrecord : recordLines (recordOf ["gen", "a\nb"]) =
      ["// Code generated by mockgen 0.1.0, DO NOT EDIT.", "//", "// Command:", "// $ gen 'a", "b'",
        ""] := by decide +kernel
  rw [hrecord] at hlines
  exact ⟨⟨by decide +kernel, by decide +kernel⟩, by decide +kernel, _, _,
    ["// Code generated by mockgen 0.1.0, DO NOT EDIT.", "//", "// Command:"], clause, behind,
    template_eq, render_template _ hwidth, hlines⟩

end GoMocks.MockFile
