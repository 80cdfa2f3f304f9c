import GoMocks.Proofs.ModuleFile.Writing

/-!
# Module files — what is read of them

What was written is read: the module path, the versions that are required, and the replacements. A
module file is refused where no line outside of its blocks is a `module` directive. A block of this
verb is not taken for one, though: the parenthesis that opens it is read as the module path.

* `GoModule.Outside`: the lines of a module file outside of its blocks.
* `GoModule.parse_written`: what is read of a module file that was written, and which module files
  are refused.
* `GoModule.parse_module_block`: blocks that are not read.
-/

namespace GoMocks.GoModule

open Text (isBlank trimChars)

variable {cs line : List Char} {lines : List (List Char)} {m : GoModule}

/-! ### Lines outside of blocks -/

/-- The line opens a block of directives of another verb than `module`. -/
def Opens (line : List Char) : Prop :=
  ∃ verb, IsVerb verb ∧ verb ≠ "module" ∧ Directive verb ['('] line

/-- The lines of a module file outside of its blocks. A block that is not closed goes on to the
end. -/
inductive Outside : List (List Char) → List (List Char) → Prop
  | nil : Outside [] []
  | line {line : List Char} {lines outside : List (List Char)} (h : ¬ Opens line)
      (hrest : Outside lines outside) : Outside (line :: lines) (line :: outside)
  | block {opening : List Char} {inner lines outside : List (List Char)} (h : Opens opening)
      (hinner : [')'] ∉ inner) (hrest : Outside lines outside) :
      Outside (opening :: inner ++ [')'] :: lines) outside
  | unclosed {opening : List Char} {inner : List (List Char)} (h : Opens opening)
      (hinner : [')'] ∉ inner) : Outside (opening :: inner) []

/-- The verb `module` with a path behind it. -/
def IsModuleDirective (line : List Char) : Prop :=
  ∃ gap quote c rest, gap ≠ [] ∧ IsGap gap ∧ (quote = [] ∨ quote = ['"']) ∧
    isPathChar c = true ∧ line = "module".toList ++ (gap ++ (quote ++ c :: rest))

/-- All lines are in blocks or outside of them. -/
theorem exists_outside : ∀ lines : List (List Char), ∃ outside, Outside lines outside := by
  intro lines
  induction hn : lines.length using Nat.strong_induction_on generalizing lines with
  | h n ih =>
    cases lines with
    | nil => exact ⟨[], .nil⟩
    | cons line lines =>
      by_cases hopens : Opens line
      · by_cases hclosed : [')'] ∈ lines
        · obtain ⟨inner, rest, rfl, hinner⟩ := List.eq_append_cons_of_mem hclosed
          obtain ⟨outside, h⟩ := ih rest.length (by rw [← hn]; simp; omega) rest rfl
          exact ⟨outside, .block hopens hinner h⟩
        · exact ⟨[], .unclosed hopens hclosed⟩
      · obtain ⟨outside, h⟩ := ih lines.length (by simp [← hn]) lines rfl
        exact ⟨line :: outside, .line hopens h⟩

/-! ### The module path -/

/-- At most one quote is dropped. -/
theorem exists_quote (cs : List Char) :
    ∃ quote, (quote = [] ∨ quote = ['"']) ∧ cs = quote ++ dropQuote cs := by
  unfold dropQuote
  split
  · exact ⟨['"'], .inr rfl, rfl⟩
  · exact ⟨[], .inl rfl, rfl⟩

/-- No empty path is scanned. -/
theorem scanPath_ne_nil {path rest : List Char} (h : scanPath cs = some (path, rest)) :
    path ≠ [] := by
  rintro rfl
  rw [scanPath] at h
  split at h
  · cases h
  · next hne => exact hne (congrArg Prod.fst (Option.some.inj h))

/-- A path is scanned where one of its characters stands, a quote in front of it or not. -/
theorem exists_scanPath_iff :
    (∃ read, scanPath cs = some read) ↔
      ∃ quote c rest, (quote = [] ∨ quote = ['"']) ∧ isPathChar c = true ∧
        cs = quote ++ c :: rest := by
  constructor
  · rintro ⟨read, h⟩
    obtain ⟨quote, hquote, hcs⟩ := exists_quote cs
    have hpath : (dropQuote cs).takeWhile isPathChar ≠ [] := by
      intro hnil
      simp [scanPath, hnil] at h
    cases hfront : dropQuote cs with
    | nil => simp [hfront] at hpath
    | cons c cs' =>
      refine ⟨quote, c, cs', hquote, ?_, hfront ▸ hcs⟩
      by_contra hc
      simp [hfront, hc] at hpath
  · rintro ⟨quote, c, rest, hquote, hc, rfl⟩
    have hdrop : dropQuote (quote ++ c :: rest) = c :: rest := by
      obtain rfl | rfl := hquote
      · unfold dropQuote
        split
        · next heq =>
          obtain ⟨rfl, -⟩ := List.cons.inj heq
          cases hc
        · rfl
      · rfl
    simp [scanPath, hdrop, hc]

/-- No module has an empty path. -/
theorem moduleDirective?_ne_empty {path : String} (h : moduleDirective? line = some path) :
    path ≠ "" := by
  obtain ⟨rest, -, h⟩ := Option.bind_eq_some_iff.mp h
  split at h
  · obtain ⟨⟨path', behind⟩, hscan, hpath⟩ := Option.bind_eq_some_iff.mp h
    obtain rfl := Option.some.inj hpath
    simpa using scanPath_ne_nil hscan
  · cases h

/-- **A line is read as a `module` directive exactly if it is one.** -/
theorem exists_moduleDirective_iff :
    (∃ path, moduleDirective? line = some path) ↔ IsModuleDirective line := by
  constructor
  · rintro ⟨path, h⟩
    rw [moduleDirective?, Text.afterFront?] at h
    split at h
    · next hfront =>
      obtain ⟨rest, rfl⟩ := List.isPrefixOf_iff_prefix.mp hfront
      rw [List.drop_left] at h
      simp only [Option.bind_eq_bind, Option.bind_some] at h
      split at h
      · next hblank =>
        obtain ⟨read, hscan, -⟩ := Option.bind_eq_some_iff.mp h
        obtain ⟨quote, c, cs, hquote, hc, hcs⟩ := exists_scanPath_iff.mp ⟨read, hscan⟩
        refine ⟨rest.takeWhile isBlank, quote, c, cs, ?_, fun c => List.mem_takeWhile_imp, hquote,
          hc, ?_⟩
        · intro hnil
          cases rest with
          | nil         => cases hblank
          | cons d rest => simp_all
        · rw [← hcs, dropBlanks, List.takeWhile_append_dropWhile]
      · cases h
    · cases h
  · rintro ⟨gap, quote, c, rest, hne, hgap, hquote, hc, rfl⟩
    obtain ⟨⟨path, behind⟩, hscan⟩ := exists_scanPath_iff.mpr ⟨quote, c, rest, hquote, hc, rfl⟩
    have hdrop : dropBlanks (gap ++ (quote ++ c :: rest)) = quote ++ c :: rest := by
      refine dropBlanks_append hgap fun d hd => ?_
      obtain rfl | rfl := hquote
      · obtain rfl := Option.some.inj hd
        simp only [isPathChar, Bool.and_eq_true, Bool.not_eq_true'] at hc
        exact hc.1
      · obtain rfl := Option.some.inj hd
        rfl
    refine ⟨.ofList path, ?_⟩
    rw [moduleDirective?, afterFront?_append]
    simp only [Option.bind_eq_bind, Option.bind_some, any_isBlank_append hne hgap, if_true, hdrop,
      hscan]
    rfl

/-! ### Module paths of module files -/

/-- A directive other than that of the module leaves the path. -/
theorem path_apply (m : GoModule) (v : Verb) (cs : List Char) : (m.apply v cs).path = m.path := by
  cases v with
  | require =>
    rw [apply]
    split <;> rfl
  | replace =>
    rw [apply]
    split <;> rfl
  | other => rfl

/-- A text on a line, in front of which there is no blank. -/
def IsContent (line : List Char) : Prop :=
  ∃ c ∈ line.head?, isBlank c = false

/-- The line that opens a block, and no other one, is behind a verb that is not `module`. -/
theorem opens_of_splitVerb {v : Verb} (hcontent : IsContent line)
    (hmodule : moduleDirective? line = none) (h : splitVerb line = (v, ['('])) : Opens line := by
  obtain ⟨c, hc, hblank⟩ := hcontent
  let word := line.takeWhile (!isBlank ·)
  let behind := line.dropWhile (!isBlank ·)
  have hword : word ≠ [] := by
    obtain ⟨cs, rfl⟩ := List.head?_eq_some_iff.mp hc
    simp [word, hblank]
  have hbehind : behind = behind.takeWhile isBlank ++ ['('] := by
    have hrest : dropBlanks behind = ['('] := congrArg Prod.snd h
    rw [← hrest, dropBlanks, List.takeWhile_append_dropWhile]
  have hne : behind.takeWhile isBlank ≠ [] := by
    -- the first word has ended, so a blank comes next
    intro hnil
    have hhead := List.head?_dropWhile_not (!isBlank ·) line
    rw [show line.dropWhile (!isBlank ·) = ['('] from hbehind.trans (by rw [hnil]; rfl)] at hhead
    cases hhead
  have hgap : IsGap (behind.takeWhile isBlank) := fun c => List.mem_takeWhile_imp
  have hline : line = word ++ behind.takeWhile isBlank ++ ['('] := by
    rw [List.append_assoc, ← hbehind, List.takeWhile_append_dropWhile]
  refine ⟨.ofList word, ⟨by simpa using hword, fun c hc => ?_⟩, fun hverb => ?_, ?_⟩
  · rw [String.toList_ofList] at hc
    simpa using List.mem_takeWhile_imp hc
  · have hdirective : IsModuleDirective line := by
      refine ⟨_, [], '(', [], hne, hgap, .inl rfl, rfl, ?_⟩
      rw [← hverb, String.toList_ofList, List.nil_append, ← List.append_assoc]
      exact hline
    obtain ⟨path, hpath⟩ := exists_moduleDirective_iff.mpr hdirective
    cases hmodule.symm.trans hpath
  · have hdirective : Directive (.ofList word) ['(']
        ((String.ofList word).toList ++ behind.takeWhile isBlank ++ ['(']) :=
      .behind hne hgap ⟨'(', rfl, rfl⟩
    rwa [String.toList_ofList, ← hline] at hdirective

/-- A line that is kept has content. -/
theorem isContent_of_mem_contents (h : line ∈ contents lines) : IsContent line := by
  obtain ⟨hmem, hne⟩ := List.mem_filter.mp h
  obtain ⟨raw, -, rfl⟩ := List.mem_map.mp hmem
  let front := (dropComment raw).dropWhile isBlank
  have hprefix : trimChars isBlank (dropComment raw) <+: front :=
    List.rdropWhile_prefix isBlank front
  cases htext : trimChars isBlank (dropComment raw) with
  | nil => simp [htext] at hne
  | cons c cs =>
    obtain ⟨rest, hrest⟩ := htext ▸ hprefix
    have hhead := List.head?_dropWhile_not isBlank (dropComment raw)
    rw [show (dropComment raw).dropWhile isBlank = c :: (cs ++ rest) from hrest.symm] at hhead
    exact ⟨c, rfl, by simpa using hhead⟩

/-- Outside of a block, a line opens one or changes the module path if it is a directive for it. -/
theorem readLine_outside (hcontent : IsContent line) (h : ¬ Opens line) (m : GoModule) :
    ∃ m', readLine (none, m) line = (none, m') ∧
      (m'.path = "" ↔ m.path = "" ∧ ¬ IsModuleDirective line) := by
  rw [readLine]
  cases hmodule : moduleDirective? line with
  | some path =>
    have hdirective := exists_moduleDirective_iff.mp ⟨path, hmodule⟩
    exact ⟨_, rfl, iff_of_false (moduleDirective?_ne_empty hmodule) fun h => h.2 hdirective⟩
  | none =>
    have hno : ¬ IsModuleDirective line := fun h => by
      obtain ⟨path, hpath⟩ := exists_moduleDirective_iff.mpr h
      cases hmodule.symm.trans hpath
    rcases hsplit : splitVerb line with ⟨v, rest⟩
    have hparen : rest ≠ ['('] := by
      rintro rfl
      exact h (opens_of_splitVerb hcontent hmodule hsplit)
    refine ⟨m.apply v rest, by simp only [if_neg hparen], ?_⟩
    rw [path_apply, and_iff_left hno]

/-- In a block the module path stays. -/
theorem foldl_inside {inner : List (List Char)} (hinner : [')'] ∉ inner) (v : Verb) (m : GoModule) :
    ∃ m', inner.foldl readLine (some v, m) = (some v, m') ∧ m'.path = m.path := by
  induction inner generalizing m with
  | nil => exact ⟨m, rfl, rfl⟩
  | cons line inner ih =>
    obtain ⟨hline, hinner⟩ := List.ne_and_not_mem_of_not_mem_cons hinner
    obtain ⟨m', hfold, hpath⟩ := ih hinner (m.apply v line)
    refine ⟨m', ?_, hpath.trans (path_apply m v line)⟩
    rw [List.foldl_cons, readLine, if_neg (Ne.symm hline), hfold]

/-- **A module path is read exactly if a line outside of the blocks is a directive for it.** -/
theorem path_foldl_eq_empty_iff {outside : List (List Char)} (h : Outside lines outside)
    (hcontent : ∀ line ∈ lines, IsContent line) (m : GoModule) :
    (lines.foldl readLine (none, m)).2.path = "" ↔
      m.path = "" ∧ ∀ line ∈ outside, ¬ IsModuleDirective line := by
  induction h generalizing m with
  | nil => simp
  | @line line lines outside hopens hrest ih =>
    obtain ⟨hline, hlines⟩ := List.forall_mem_cons.mp hcontent
    obtain ⟨m', hread, hpath⟩ := readLine_outside hline hopens m
    rw [List.foldl_cons, hread, ih hlines, hpath, List.forall_mem_cons, and_assoc]
  | @block opening inner lines outside hopens hinner hrest ih =>
    -- neither the lines of a block nor its ends change the path
    obtain ⟨verb, hverb, hmodule, hdirective⟩ := hopens
    obtain ⟨m', hfold, hpath⟩ := foldl_inside hinner (verbOf verb) m
    have hlines : ∀ line ∈ lines, IsContent line := fun line hline =>
      hcontent line (by simp [hline])
    rw [List.cons_append, List.foldl_cons, readLine_directive hverb hmodule hdirective, if_pos rfl,
      List.foldl_append, hfold, List.foldl_cons, readLine, if_pos rfl, ih hlines, hpath]
  | @unclosed opening inner hopens hinner =>
    obtain ⟨verb, hverb, hmodule, hdirective⟩ := hopens
    obtain ⟨m', hfold, hpath⟩ := foldl_inside hinner (verbOf verb) m
    rw [List.foldl_cons, readLine_directive hverb hmodule hdirective, if_pos rfl, hfold]
    simp [hpath]

/-! ### The whole file -/

/-- The lines of a text with content are those of its lines. -/
theorem contentLines_eq (lines : List (List Char)) (h : ∀ line ∈ lines, '\n' ∉ line) :
    contentLines (.ofList (['\n'].intercalate lines)) = contents lines := by
  rw [contentLines, String.toList_ofList]
  by_cases hne : lines = []
  · subst hne
    rfl
  · rw [List.splitOn_intercalate '\n' h hne]
    rfl

/-- All facts have been written. -/
theorem Entries.exists_text {verb : String} {facts : List Fact} (h : Entries verb facts lines) :
    ∀ fact ∈ facts, ∃ cs, fact.Text cs := by
  induction h with
  | nil                  => exact nofun
  | blank _ _ ih         => exact ih
  | entry _ hfact _ _ ih => exact List.forall_mem_cons.mpr ⟨⟨_, hfact⟩, ih⟩

/-- Every fact that is written has a text. -/
theorem Writes.exists_text {facts : List Fact} (h : Writes facts lines) :
    ∀ fact ∈ facts, ∃ cs, fact.Text cs := by
  induction h with
  | nil                               => exact nofun
  | blank _ _ ih                      => exact ih
  | single hfact _ _ _ ih             => exact List.forall_mem_cons.mpr ⟨⟨_, hfact⟩, ih⟩
  | block _ _ _ hinner _ _ ih         => exact List.forall_mem_append.mpr ⟨hinner.exists_text, ih⟩
  | other _ _ _ _ _ _ _ ih            => exact ih
  | otherBlock _ _ _ _ _ _ _ _ ih     => exact ih

/-- A module path that is written is not empty. -/
theorem Writes.modulePath_ne_empty {facts : List Fact} {path : String} (h : Writes facts lines)
    (hpath : path ∈ facts.filterMap Fact.modulePath?) : path ≠ "" := by
  obtain ⟨fact, hfact, hmodule⟩ := List.mem_filterMap.mp hpath
  obtain ⟨cs, htext⟩ := h.exists_text fact hfact
  cases htext with
  | module htoken => exact Option.some.inj hmodule ▸ htoken.ne_empty
  | require       => cases hmodule
  | replace       => cases hmodule

/-- A module file is read line by line. -/
theorem parse_eq (content : String) (dir : Path) :
    parse content dir =
      let m := ((contentLines content).foldl readLine (none, { dir })).2
      if m.path = "" then .error (.load (dir.child fileName).text .noModuleDirective)
      else .ok m := by
  rw [parse]
  simp only [String.isEmpty_iff]
  rfl

/-- **What is written is read.** Write facts as the lines of a module file: directives on lines of
their own or in blocks, blank lines, comments, and other directives and blocks between them. If one
of them is a module path, the module file is read. It has the module path, for each path that is
required the version of its last entry, and the replacements in order.

A module file is refused, for the lack of a module directive, exactly if no line outside of its
blocks is one. -/
theorem parse_written (dir : Path) :
    (∀ facts lines path, Writes facts lines → (∀ line ∈ lines, '\n' ∉ line) →
      (facts.filterMap Fact.modulePath?).getLast? = some path →
      ∃ m, parse (.ofList (['\n'].intercalate lines)) dir = .ok m ∧ m.path = path ∧ m.dir = dir ∧
        (∀ name, m.requirements.lookup name =
          (facts.filterMap Fact.requirement?).reverse.lookup name) ∧
        m.replacements = facts.filterMap (Fact.replacement? dir)) ∧
    ∀ content, (∃ outside, Outside (contentLines content) outside) ∧
      ∀ outside, Outside (contentLines content) outside →
        (parse content dir = .error (.load (dir.child fileName).text .noModuleDirective) ↔
          ∀ line ∈ outside, ¬ IsModuleDirective line) := by
  refine ⟨fun facts lines path hwrites hlines hpath => ?_, fun content =>
    ⟨exists_outside _, fun outside houtside => ?_⟩⟩
  · obtain ⟨hmodule, hdir, hrequirements, hreplacements⟩ := foldl_enter facts dir
    have hfold := foldl_writes hwrites { dir }
    have hne : path ≠ "" := hwrites.modulePath_ne_empty (List.mem_of_mem_getLast? hpath)
    rw [hpath, Option.getD_some] at hmodule
    rw [parse_eq, contentLines_eq lines hlines, hfold]
    exact ⟨_, if_neg (hmodule ▸ hne), hmodule, hdir, hrequirements, hreplacements⟩
  · have hempty := path_foldl_eq_empty_iff houtside (fun line => isContent_of_mem_contents)
      { dir }
    have hiff : (((contentLines content).foldl readLine (none, { dir })).2.path = "") ↔
        ∀ line ∈ outside, ¬ IsModuleDirective line := by
      rw [hempty]
      exact and_iff_right rfl
    rw [parse_eq, ← hiff]
    dsimp only
    split
    · next hpath => exact iff_of_true rfl hpath
    · next hpath => exact iff_of_false nofun hpath

/-- The lines of a module file with comments, a path in quotes, a module that is required twice, and
a target behind an arrow without a blank. -/
def sampleLines : List (List Char) :=
  ["// a sample".toList, "module \"m\" // the path".toList, [], "go 1.22".toList,
    "require (".toList, "\ta v1".toList, "  \"a\" v2// again".toList, ")".toList,
    "replace a v1 =>./b".toList]

/-- The last version counts, and the replacement is a directory. -/
theorem parse_written_sample :
    ∃ m, parse (.ofList (['\n'].intercalate sampleLines)) ⟨"/m"⟩ = .ok m ∧ m.path = "m" ∧
      m.requirements.lookup "a" = some "v2" ∧
      m.replacements = [("a", .directory ⟨"/m/./b"⟩)] := by
  have htoken : ∀ s ∈ ["m", "a", "v1", "v2", "./b"], IsToken s := by
    intro s hs
    simp only [List.mem_cons, List.not_mem_nil, or_false] at hs
    rcases hs with rfl | rfl | rfl | rfl | rfl <;>
      exact ⟨by decide, by simp [isBlank], by decide, by decide⟩
  have hempty : IsGap [] := List.forall_mem_nil _
  have hspace : IsGap [' '] := List.forall_mem_singleton.mpr rfl
  have htab : IsGap ['\t'] := List.forall_mem_singleton.mpr rfl
  have hspaces : IsGap [' ', ' '] := List.forall_mem_cons.mpr ⟨rfl, hspace⟩
  have hversion : ∀ v ∈ ["v1", "v2"], SpellsVersion (some v) ([' '] ++ v.toList) :=
    fun v hv => .some (htoken v (by simp at hv ⊢; tauto)) (by simp) hspace
  have hreplace : Writes [.replace "a" (some "v1") "./b" none] ["replace a v1 =>./b".toList] :=
    .single
      (.replace (htoken "a" (by simp)) (.inl rfl) (hversion "v1" (by simp)) hspace (.inl (by simp))
        ⟨htoken "./b" (by simp), [], _, [], hempty, .inl rfl, .none, rfl⟩)
      (.behind (by simp) hspace ⟨'a', rfl, rfl⟩)
      ⟨[], [], [], hempty, hempty, rfl, .inl rfl⟩ .nil
  have hentries : Entries "require" [.require "a" "v1", .require "a" "v2"]
      ["\ta v1".toList, "  \"a\" v2// again".toList] :=
    .entry rfl (.require (htoken "a" (by simp)) (.inl rfl) (hversion "v1" (by simp)))
      ⟨['\t'], [], [], htab, hempty, rfl, .inl rfl⟩
      (.entry rfl (.require (htoken "a" (by simp)) (.inr rfl) (hversion "v2" (by simp)))
        ⟨[' ', ' '], [], "// again".toList, hspaces, hempty, rfl,
          .inr ⟨⟨_, rfl⟩, .inr (by decide)⟩⟩ .nil)
  have hverb : IsVerb "go" := ⟨by decide, by simp [isBlank]⟩
  have hgo : Directive "go" "1.22".toList "go 1.22".toList :=
    .behind (by simp) hspace ⟨'1', rfl, rfl⟩
  have hwrites : Writes [.module "m", .require "a" "v1", .require "a" "v2",
      .replace "a" (some "v1") "./b" none] sampleLines :=
    .blank ⟨[], [], "// a sample".toList, hempty, hempty, rfl, .inr ⟨⟨_, rfl⟩, .inr (by simp)⟩⟩
      (.single (.module (htoken "m" (by simp)) (.inr rfl))
        (.behind (by simp) hspace ⟨'"', rfl, rfl⟩)
        ⟨[], [' '], "// the path".toList, hempty, hspace, rfl, .inr ⟨⟨_, rfl⟩, .inl (by simp)⟩⟩
        (.blank ⟨[], [], [], hempty, hempty, rfl, .inl rfl⟩
          (.other hverb (by simp) (by simp) hgo
            (hgo.isBody hverb (by decide) (.of_plain (by simp [isBlank]) (by decide)))
            ⟨[], [], [], hempty, hempty, rfl, .inl rfl⟩
            (.block (by simp) (.behind (by simp) hspace ⟨'(', rfl, rfl⟩)
              ⟨[], [], [], hempty, hempty, rfl, .inl rfl⟩ hentries
              ⟨[], [], [], hempty, hempty, rfl, .inl rfl⟩ hreplace))))
  obtain ⟨hread, -⟩ := parse_written ⟨"/m"⟩
  obtain ⟨m, hm, hpath, -, hrequirements, hreplacements⟩ :=
    hread _ _ "m" hwrites (by decide) rfl
  exact ⟨m, hm, hpath, hrequirements "a", hreplacements.trans (by decide +kernel)⟩

/-- A `module` block has no directive outside of blocks, but it is not refused: its parenthesis is
read as the path. A block is passed over where no blank comes before its parenthesis, and a module
is required that nobody named where both parentheses are on one line. -/
theorem parse_module_block :
    parse "module (\n\tm\n)\n" ⟨"/m"⟩ = .ok { path := "(", dir := ⟨"/m"⟩ } ∧
      parse "module m\nrequire(\n\ta v1\n)\n" ⟨"/m"⟩ = .ok { path := "m", dir := ⟨"/m"⟩ } ∧
      parse "module m\nrequire ( )\n" ⟨"/m"⟩ =
        .ok { path := "m", dir := ⟨"/m"⟩, requirements := [("(", ")")] } := by
  refine ⟨?_, ?_, ?_⟩ <;> decide +kernel

end GoMocks.GoModule
