import GoMocks.Proofs.GoSource.Lines
import GoMocks.Proofs.GoSource.RoundTrip

/-!
# Go source — items of a file

A file is a row of items behind its package clause, each on lines of its own. The lines are read item
after item, by rules that are nested deeper than any of them is long.

* `ReadsItem`: rows of lexemes are read as an item of a file.
* `HoldsItems`: lines that hold such rows.
* `SourceFile.parse_lines`: what a file of such lines declares.
-/

namespace GoMocks.GoSource

open GoSource.Parser GoSource.Grammar

/-- Rows of lexemes on lines of their own are read as an item that has a property and is no package
clause. -/
structure ReadsItem (rows : List (List Lexeme)) (P : TopLevel → Prop) : Prop where
  starts : rows ≠ []
  reads (d : Nat) {tss : List (List Token)} (htss : List.Forall₂ SpellLine tss rows) {word : Token}
    {ts : List Token} (hts : tss.flatten = word :: ts) (hd : ts.length + 8 ≤ d) :
    word.kind ≠ .eof ∧ ∃ item, P item ∧ (∀ name, item ≠ .package name) ∧
      ∀ next rest, next.newline = true →
        topLevel (nested d) ({ word with newline := false } :: (ts ++ next :: rest)) =
          some (item, next :: rest)

theorem ReadsItem.mono {rows : List (List Lexeme)} {P Q : TopLevel → Prop} (h : ReadsItem rows P)
    (hQ : ∀ item, P item → Q item) : ReadsItem rows Q where
  starts := h.starts
  reads d _ htss _ _ hts hd := by
    obtain ⟨hword, item, hP, hread⟩ := h.reads d htss hts hd
    exact ⟨hword, item, hQ item hP, hread⟩

section Items

variable {rows : List (List Lexeme)} {tss : List (List Token)} {word eof : Token} {ts : List Token}
  {d n : Nat}

/-- The first token of some lines. -/
theorem exists_flatten_eq_cons (h : List.Forall₂ SpellLine tss rows) (hne : rows ≠ []) :
    ∃ word ts, tss.flatten = word :: ts ∧ word.newline = true := by
  cases h with
  | nil => exact absurd rfl hne
  | cons hline _ =>
    cases hline with
    | mk _ _ hnewline _ => exact ⟨_, _, rfl, hnewline⟩

/-- The lines are followed by the next ones, or by the end of the file. -/
theorem exists_next (h : List.Forall₂ SpellLine tss rows) (heof : eof.newline = true) :
    ∃ next rest, tss.flatten ++ [eof] = next :: rest ∧ next.newline = true := by
  cases rows with
  | nil =>
    cases h
    exact ⟨eof, [], rfl, heof⟩
  | cons row rows =>
    obtain ⟨word, ts, hts, hnewline⟩ := exists_flatten_eq_cons h (by simp)
    exact ⟨word, ts ++ [eof], by rw [hts]; rfl, hnewline⟩

/-- Items are read one after the other, up to the end of the file. -/
theorem exists_items {blocks : List (List (List Lexeme))} {Ps : List (TopLevel → Prop)}
    (h : List.Forall₂ ReadsItem blocks Ps) (htss : List.Forall₂ SpellLine tss blocks.flatten)
    (heof : eof.kind = .eof ∧ eof.newline = true) (hd : tss.flatten.length + 8 ≤ d)
    (hn : tss.flatten.length < n) {start : Token} {rest : List Token}
    (hstart : tss.flatten ++ [eof] = start :: rest) :
    ∃ items final, List.Forall₂ (fun P item => P item) Ps (items.map Prod.snd) ∧
      (∀ item ∈ items, ∀ name, item.2 ≠ .package name) ∧
      Grammar.items (nested d) n ({ start with newline := false } :: rest) = some (items, final) := by
  induction h generalizing tss n start rest with
  | nil =>
    cases htss
    obtain ⟨rfl, rfl⟩ := List.cons.inj hstart
    obtain ⟨n, rfl⟩ := Nat.exists_eq_add_of_le' (Nat.one_le_of_lt hn)
    exact ⟨[], _, .nil, by simp, items_eof heof.1⟩
  | @cons rows P blocks Ps hitem _ ih =>
    obtain ⟨tss₁, tss₂, rfl, h₁, h₂⟩ := exists_append_of_forall₂ htss
    obtain ⟨word, ts, hts, -⟩ := exists_flatten_eq_cons h₁ hitem.starts
    obtain ⟨next, behind, hnext, hnewline⟩ := exists_next h₂ heof.2
    have hlength : (tss₁ ++ tss₂).flatten.length = ts.length + 1 + tss₂.flatten.length := by
      rw [List.flatten_append, List.length_append, hts, List.length_cons]
    obtain ⟨n, rfl⟩ := Nat.exists_eq_add_of_le' (Nat.one_le_of_lt hn)
    obtain ⟨items, final, hitems, hpackages, hrun⟩ := ih h₂ (by omega) (n := n) (by omega) hnext
    obtain ⟨hword, item, hP, hpackage, hread⟩ := hitem.reads d h₁ hts (by omega)
    rw [List.flatten_append, hts, List.append_assoc, hnext] at hstart
    obtain ⟨rfl, rfl⟩ := List.cons.inj hstart
    exact ⟨(word.comments, item) :: items, final, .cons hP hitems,
      List.forall_mem_cons.mpr ⟨hpackage, hpackages⟩,
      items_succ hword (hread next behind hnewline) hnewline hrun⟩

end Items

/-! ### Lines of items -/

/-- The lines hold items, each with a property. -/
def HoldsItems (lines : List String) (Ps : List (TopLevel → Prop)) : Prop :=
  ∃ blocks, List.Forall₂ ReadsItem blocks Ps ∧ LinesLaidOut lines blocks.flatten

namespace HoldsItems

variable {lines more : List String} {Ps Qs : List (TopLevel → Prop)} {P Q : TopLevel → Prop}

/-- Lines laid out in the rows of an item hold that item. -/
theorem of_rows {rows : List (List Lexeme)} (h : ReadsItem rows P)
    (hlines : LinesLaidOut lines rows) : HoldsItems lines [P] :=
  ⟨[rows], .cons h .nil, by simpa using hlines⟩

theorem append (h : HoldsItems lines Ps) (h' : HoldsItems more Qs) :
    HoldsItems (lines ++ more) (Ps ++ Qs) := by
  obtain ⟨blocks, hblocks, hlines⟩ := h
  obtain ⟨blocks', hblocks', hmore⟩ := h'
  refine ⟨blocks ++ blocks', List.rel_append hblocks hblocks', ?_⟩
  rw [List.flatten_append]
  exact hlines.append hmore

/-- Lines made piece by piece hold the items of the pieces. -/
theorem flatMap {α : Type} {as : List α} {f : α → List String} {g : α → List (TopLevel → Prop)}
    (h : ∀ a ∈ as, HoldsItems (f a) (g a)) : HoldsItems (as.flatMap f) (as.flatMap g) := by
  induction as with
  | nil => exact ⟨[], .nil, .nil⟩
  | cons a as ih =>
    obtain ⟨ha, has⟩ := List.forall_mem_cons.mp h
    exact ha.append (ih has)

end HoldsItems

/-- The lines hold items that all have a property. -/
def HoldsOnly (P : TopLevel → Prop) (lines : List String) : Prop :=
  ∃ Ps, HoldsItems lines Ps ∧ ∀ Q ∈ Ps, ∀ item, Q item → P item

namespace HoldsOnly

variable {P : TopLevel → Prop} {lines more : List String} {Ps : List (TopLevel → Prop)}

theorem append (h : HoldsOnly P lines) (h' : HoldsOnly P more) : HoldsOnly P (lines ++ more) := by
  obtain ⟨Ps, hlines, hPs⟩ := h
  obtain ⟨Qs, hmore, hQs⟩ := h'
  exact ⟨Ps ++ Qs, hlines.append hmore, List.forall_mem_append.mpr ⟨hPs, hQs⟩⟩

theorem flatMap {α : Type} {as : List α} {f : α → List String} (h : ∀ a ∈ as, HoldsOnly P (f a)) :
    HoldsOnly P (as.flatMap f) := by
  induction as with
  | nil => exact ⟨[], ⟨[], .nil, .nil⟩, by simp⟩
  | cons a as ih =>
    obtain ⟨ha, has⟩ := List.forall_mem_cons.mp h
    exact ha.append (ih has)

end HoldsOnly

namespace SourceFile

/-- Takes an item of its own into a file that has a package clause. -/
theorem add_of_package {file : SourceFile} (h : file.package ≠ "") (comments : List String)
    (item : TopLevel) : file.add (comments, item) = file.add ([], item) := by
  simp [add, String.isEmpty_iff, h]

theorem package_add {file : SourceFile} {comments : List String} {item : TopLevel}
    (h : ∀ name, item ≠ .package name) : (file.add (comments, item)).package = file.package := by
  cases item with
  | package name => exact absurd rfl (h name)
  | _ =>
    rw [add]
    dsimp only
    split <;> rfl

theorem package_foldl_add {file : SourceFile} {items : List (List String × TopLevel)}
    (h : ∀ item ∈ items, ∀ name, item.2 ≠ .package name) :
    (items.foldl add file).package = file.package := by
  induction items generalizing file with
  | nil => rfl
  | cons item items ih =>
    obtain ⟨hitem, hitems⟩ := List.forall_mem_cons.mp h
    rw [List.foldl_cons, ih hitems, package_add hitem]

/-- Behind the package clause, comments do not count. -/
theorem foldl_add_of_package {file : SourceFile} (h : file.package ≠ "")
    {items : List (List String × TopLevel)}
    (hitems : ∀ item ∈ items, ∀ name, item.2 ≠ .package name) :
    items.foldl add file = (items.map fun item => ([], item.2)).foldl add file := by
  induction items generalizing file with
  | nil => rfl
  | cons item items ih =>
    obtain ⟨comments, item⟩ := item
    obtain ⟨hitem, hitems⟩ := List.forall_mem_cons.mp hitems
    rw [List.map_cons, List.foldl_cons, List.foldl_cons, add_of_package h]
    exact ih (by rwa [package_add hitem]) hitems

/-- **Items on lines of their own are read back.** A file with a package clause, and with lines behind
it that hold items, declares what these items declare. No comment in front of the package clause
keeps it out of builds. -/
theorem parse_lines (path : Path) {front : List Char} {newline : Bool} {comments : List String}
    (hfront : IsGap front newline comments) (hmark : ∀ c ∈ front.head?, c ≠ Token.byteOrderMark)
    (hplain : ∀ comment ∈ comments, isIgnoreConstraint comment = false) {name : String}
    (hname : isIdentifier name) {lines : List String} {Ps : List (TopLevel → Prop)}
    (h : HoldsItems lines Ps) {source : String}
    (hsource : source.toList = front ++ ("package ".toList ++ (name.toList ++
      (lines.flatMap ('\n' :: ·.toList) ++ ['\n'])))) :
    ∃ items, List.Forall₂ (fun P item => P item) Ps items ∧
      parse path source = .ok ((items.map (([] : List String), ·)).foldl add
        ⟨path, name, [], [], false⟩) := by
  obtain ⟨blocks, hblocks, hlines⟩ := h
  obtain ⟨word, clause, tss, eof, hword, hclause, htss, heof, hscan⟩ :=
    hlines.scanAll hfront hmark hname hsource
  obtain ⟨next, behind, hnext, hnewline⟩ := exists_next htss heof.2
  obtain ⟨items, final, hitems, hpackages, hrun⟩ := exists_items hblocks htss heof
    (d := 4 * (word :: clause :: (tss.flatten ++ [eof])).length)
    (n := (clause :: (tss.flatten ++ [eof])).length + 1) (by simp; omega) (by simp; omega) hnext
  -- the clause is the first item, and it alone names a package
  have hclause : topLevel (nested (4 * (word :: clause :: (tss.flatten ++ [eof])).length))
      (word :: clause :: next :: behind) = some (.package name, next :: behind) := by
    obtain ⟨kind, text, gap, newline, comments, line⟩ := word
    obtain ⟨rfl, rfl, -⟩ := hword
    obtain ⟨kind, text, gap, newline, comments, line⟩ := clause
    obtain ⟨rfl, rfl⟩ := hclause
    rfl
  have hfile := items_succ (by simp [hword.1]) hclause hnewline hrun
  have hparse : topLevelItems? source = some ((comments, .package name) :: items) := by
    rw [topLevelItems?, hscan]
    rw [← hnext, hword.2.2] at hfile
    exact congrArg (Option.bind · _) hfile
  have hne : name ≠ "" := by
    rintro rfl
    cases hname
  have hfront : add ⟨path, "", [], [], false⟩ (comments, .package name) =
      ⟨path, name, [], [], false⟩ := by
    have hany : comments.any isIgnoreConstraint = false := by simpa using hplain
    simp [add, hany]
  have hall : items.foldl add ⟨path, name, [], [], false⟩ = _ := foldl_add_of_package hne hpackages
  refine ⟨items.map Prod.snd, hitems, ?_⟩
  rw [parse, hparse]
  dsimp only
  have hnamed : (items.foldl add ⟨path, name, [], [], false⟩).package.isEmpty = false := by
    simpa [package_foldl_add hpackages] using hne
  rw [List.foldl_cons, hfront, if_neg (by simp [hnamed]), hall, List.map_map]
  rfl

/-- **A package clause needs a name**, whatever comes behind it. -/
theorem parse_of_unnamed (path : Path) {front : List Char} {newline : Bool}
    {comments : List String} (hfront : IsGap front newline comments)
    (hmark : ∀ c ∈ front.head?, c ≠ Token.byteOrderMark) {c : Char}
    (hc : Text.isIdentifierStart c = false) (hblank : Token.isGapChar c = false) (hslash : c ≠ '/')
    {rest : List Char} {source : String}
    (hsource : source.toList = front ++ ("package".toList ++ ([' '] ++ c :: rest))) :
    parse path source = .error (.malformedSource path) := by
  have hhead : ∀ c ∈ source.toList.head?, c ≠ Token.byteOrderMark := by
    rw [hsource]
    cases front with
    | nil => simpa using (by decide : 'p' ≠ Token.byteOrderMark)
    | cons d front => exact hmark
  have hends : ∀ d ∈ ([' '] ++ c :: rest).head?, (Lexeme.keyword "package").runsInto d = false := by
    rintro _ ⟨⟩
    decide
  have hword := scanFrom_append (l := .keyword "package") (by decide) hfront hends 1
    source.toList.length
  have hitems : topLevelItems? source = none := by
    rw [topLevelItems?]
    cases hscan : Token.scanAll source with
    | none => rfl
    | some tokens =>
      rw [scanAll_eq hhead, hsource] at hscan
      rw [hsource] at hword
      -- the scan may fail later on; if it does not, its second token starts at `c` and is no name
      obtain ⟨ts, hts, rfl⟩ := Option.map_eq_some_iff.mp (hword.symm.trans hscan)
      obtain ⟨t, more, rfl, ht⟩ := exists_first_of_scanFrom (.blank (by decide) .nil) hc hblank
        hslash hts
      have htoken : Parser.token (·.kind == .name) (t :: more) = none := if_neg (by simpa using ht)
      have hname : Parser.name (t :: more) = none := bind_of_eq_none htoken
      have hclause (g : Grammar) (gap : String) (line : Nat) :
          topLevel g (⟨.keyword, "package", gap, newline, comments, line⟩ :: t :: more) = none := by
        have hitem (ts : List Token) :
            topLevel g (⟨.keyword, "package", gap, newline, comments, line⟩ :: ts) =
              (Parser.name ts).bind fun found => some (.package found.1, found.2) := rfl
        rw [hitem, hname]
        rfl
      exact congrArg (Option.bind · _) (congrArg (Option.bind · _) (hclause _ _ _))
  rw [parse, hitems]
  rfl

end SourceFile

end GoMocks.GoSource
