import GoMocks.Proofs.ModuleFile.Scanning

/-!
# Module files — how they are written

A module file is written line by line: a directive on a line, or several of one verb between
parentheses, with blanks around them and comments behind them, and other directives in between. It
says what its directives say, in order.

* `GoModule.Lays`: a line with a text on it.
* `GoModule.Fact`, `Writes`: what directives say, and the ways to write them as the lines of a
  module file.
* `GoModule.foldl_writes`: the lines are read as what they were written for.
* `GoModule.foldl_enter`: the module path, the requirements and the replacements that come of it.
-/

namespace GoMocks.GoModule

open Text (isBlank trimChars)

variable {a b body comment cs ds gap indent line : List Char} {path : String}
  {version? : Option String}

/-! ### Lines -/

/-- A text that can stand on a line: there is no blank at its ends, and no comment in it. -/
structure IsBody (body : List Char) : Prop where
  head      : ∀ c ∈ body.head?, isBlank c = false
  last      : ∀ c ∈ body.getLast?, isBlank c = false
  noComment : Avoids '/' '/' body

/-- A line has a text on it, with blanks around it and a comment behind it, if any. The slashes of
the comment do not follow one of the text. -/
def Lays (body line : List Char) : Prop :=
  ∃ indent gap comment, IsGap indent ∧ IsGap gap ∧ line = indent ++ body ++ gap ++ comment ∧
    (comment = [] ∨ "//".toList <+: comment ∧ (gap ≠ [] ∨ body.getLast? ≠ some '/'))

/-- A character that begins no comment is kept. -/
theorem dropComment_cons {c : Char} (h : ¬ (c = '/' ∧ cs.head? = some '/')) :
    dropComment (c :: cs) = c :: dropComment cs := by
  rw [dropComment.eq_def]
  split
  · next heq =>
    obtain ⟨rfl, rfl⟩ := List.cons.inj heq
    exact absurd ⟨rfl, rfl⟩ h
  · next heq =>
    obtain ⟨rfl, rfl⟩ := List.cons.inj heq
    rfl
  · next heq => cases heq

/-- A comment begins where two slashes first follow each other. -/
theorem dropComment_append (h : Avoids '/' '/' cs)
    (hcomment : comment = [] ∨ "//".toList <+: comment ∧ cs.getLast? ≠ some '/') :
    dropComment (cs ++ comment) = cs := by
  induction cs with
  | nil =>
    obtain rfl | ⟨⟨rest, rfl⟩, -⟩ := hcomment
    · rfl
    · rfl
  | cons c cs ih =>
    obtain ⟨hc, hcs⟩ := List.isChain_cons.mp h
    have hnext : ¬ (c = '/' ∧ (cs ++ comment).head? = some '/') := by
      rintro ⟨rfl, hhead⟩
      cases cs with
      | nil =>
        obtain rfl | ⟨-, hlast⟩ := hcomment
        · cases hhead
        · exact hlast rfl
      | cons d cs =>
        obtain rfl := Option.some.inj hhead
        exact hc _ rfl ⟨rfl, rfl⟩
    rw [List.cons_append, dropComment_cons hnext, ih hcs ?_]
    refine hcomment.imp_right fun ⟨hslashes, hlast⟩ => ⟨hslashes, fun hcs' => hlast ?_⟩
    cases cs with
    | nil       => cases hcs'
    | cons d cs => rwa [List.getLast?_cons_cons]

theorem trimChars_append (hindent : IsGap indent) (hgap : IsGap gap)
    (hhead : ∀ c ∈ body.head?, isBlank c = false) (hlast : ∀ c ∈ body.getLast?, isBlank c = false) :
    trimChars isBlank (indent ++ body ++ gap) = body := by
  by_cases hne : body = []
  · subst hne
    have hall : (indent ++ [] ++ gap).dropWhile isBlank = [] := by
      rw [List.append_nil, List.dropWhile_eq_nil_iff]
      exact List.forall_mem_append.mpr ⟨hindent, hgap⟩
    rw [trimChars, hall]
    rfl
  · have hfront : (indent ++ body ++ gap).dropWhile isBlank = body ++ gap := by
      rw [List.append_assoc]
      refine dropWhile_append_of_stop hindent fun c hc => ?_
      rw [List.head?_append_of_ne_nil _ hne] at hc
      exact hhead c hc
    have hback : (gap.reverse ++ body.reverse).dropWhile isBlank = body.reverse := by
      refine dropWhile_append_of_stop (fun c hc => hgap c (List.mem_reverse.mp hc)) fun c hc => ?_
      rw [List.head?_reverse] at hc
      exact hlast c hc
    rw [trimChars, hfront, List.reverse_append, hback, List.reverse_reverse]

/-- **A line is read as the text on it.** -/
theorem Lays.content (h : Lays body line) (hbody : IsBody body) :
    trimChars isBlank (dropComment line) = body := by
  obtain ⟨indent, gap, comment, hindent, hgap, rfl, hcomment⟩ := h
  have hslash : Avoids '/' '/' (indent ++ body ++ gap) := by
    refine avoids_append.mpr ⟨avoids_append.mpr ⟨hindent.avoids rfl, hbody.noComment, ?_⟩,
      hgap.avoids rfl, ?_⟩
    · intro a ha b _ hab
      exact hindent.ne_of_mem rfl a (List.mem_of_mem_getLast? ha) hab.1
    · intro a _ b hb hab
      exact hgap.ne_of_mem rfl b (List.mem_of_mem_head? hb) hab.2
  have hdrop : dropComment (indent ++ body ++ gap ++ comment) = indent ++ body ++ gap := by
    refine dropComment_append hslash (hcomment.imp_right fun ⟨hslashes, hapart⟩ =>
      ⟨hslashes, fun hlast => ?_⟩)
    by_cases hne : gap = []
    · -- the last character is one of the text, or of the blanks in front
      rw [hne, List.append_nil, List.getLast?_append] at hlast
      obtain hbody | hindent' := Option.or_eq_some_iff.mp hlast
      · exact hapart.resolve_left (fun h => h hne) hbody
      · exact hindent.ne_of_mem rfl _ (List.mem_of_mem_getLast? hindent'.2) rfl
    · rw [List.getLast?_append_of_ne_nil _ hne] at hlast
      exact hgap.ne_of_mem rfl _ (List.mem_of_mem_getLast? hlast) rfl
  rw [hdrop, trimChars_append hindent hgap hbody.head hbody.last]

/-! ### Directives -/

/-- What a directive says. -/
inductive Fact
  | module (path : String)
  | require (path version : String)
  | replace (old : String) (oldVersion? : Option String) (target : String)
      (version? : Option String)

/-- The verb of its directive. -/
def Fact.verb : Fact → String
  | module _    => "module"
  | require ..  => "require"
  | replace ..  => "replace"

/-- What is written behind the verb. An arrow stands behind blanks, unless a path in quotes comes
before it. -/
inductive Fact.Text : Fact → List Char → Prop
  | module {path : String} {cs : List Char} (hpath : IsToken path) (h : SpellsPath path cs) :
      Text (.module path) cs
  | require {path version : String} {cs ds : List Char} (hpath : IsToken path)
      (h : SpellsPath path cs) (hversion : SpellsVersion (some version) ds) :
      Text (.require path version) (cs ++ ds)
  | replace {old target : String} {oldVersion? version? : Option String} {os vs gap cs : List Char}
      (hold : IsToken old) (hos : SpellsPath old os) (hvs : SpellsVersion oldVersion? vs)
      (hgap : IsGap gap) (hapart : gap ≠ [] ∨ oldVersion? = none ∧ os ≠ old.toList)
      (htarget : SpellsTarget target version? cs) :
      Text (.replace old oldVersion? target version?) (os ++ (vs ++ (gap ++ "=>".toList ++ cs)))

/-- A verb, and what stands behind it. -/
inductive Directive (verb : String) : List Char → List Char → Prop
  | bare : Directive verb [] verb.toList
  | behind {gap cs : List Char} (hne : gap ≠ []) (hgap : IsGap gap)
      (hcs : ∃ c ∈ cs.head?, isBlank c = false) : Directive verb cs (verb.toList ++ gap ++ cs)

/-- A word that a line can begin with. -/
def IsVerb (verb : String) : Prop :=
  verb ≠ "" ∧ ∀ c ∈ verb.toList, isBlank c = false

instance (verb : String) : Decidable (IsVerb verb) :=
  inferInstanceAs (Decidable (_ ∧ _))

/-- Directives of one verb, each on a line of its own, with blank lines between them. -/
inductive Entries (verb : String) : List Fact → List (List Char) → Prop
  | nil : Entries verb [] []
  | blank {facts : List Fact} {line : List Char} {lines : List (List Char)} (h : Lays [] line)
      (hrest : Entries verb facts lines) : Entries verb facts (line :: lines)
  | entry {fact : Fact} {cs line : List Char} {facts : List Fact} {lines : List (List Char)}
      (hverb : fact.verb = verb) (hfact : fact.Text cs) (h : Lays cs line)
      (hrest : Entries verb facts lines) : Entries verb (fact :: facts) (line :: lines)

/-- The lines of a module file that say some facts, in order. Other directives and blocks may stand
between them. The parenthesis that opens a block stands behind a blank at the end of its line, and
the one that closes it has a line of its own. -/
inductive Writes : List Fact → List (List Char) → Prop
  | nil : Writes [] []
  | blank {facts : List Fact} {line : List Char} {lines : List (List Char)} (h : Lays [] line)
      (hrest : Writes facts lines) : Writes facts (line :: lines)
  | single {fact : Fact} {cs body line : List Char} {facts : List Fact}
      {lines : List (List Char)} (hfact : fact.Text cs) (hbody : Directive fact.verb cs body)
      (h : Lays body line) (hrest : Writes facts lines) : Writes (fact :: facts) (line :: lines)
  | block {verb : String} {body opening closing : List Char} {entries facts : List Fact}
      {inner lines : List (List Char)} (hverb : verb ∈ ["require", "replace"])
      (hbody : Directive verb ['('] body) (hopening : Lays body opening)
      (hinner : Entries verb entries inner) (hclosing : Lays [')'] closing)
      (hrest : Writes facts lines) :
      Writes (entries ++ facts) (opening :: inner ++ closing :: lines)
  | other {verb : String} {cs body line : List Char} {facts : List Fact}
      {lines : List (List Char)} (hverb : IsVerb verb)
      (hother : verb ∉ ["module", "require", "replace"]) (hcs : cs ≠ ['('])
      (hbody : Directive verb cs body) (hisBody : IsBody body) (h : Lays body line)
      (hrest : Writes facts lines) : Writes facts (line :: lines)
  | otherBlock {verb : String} {body opening closing : List Char} {facts : List Fact}
      {inner lines : List (List Char)} (hverb : IsVerb verb)
      (hother : verb ∉ ["module", "require", "replace"]) (hbody : Directive verb ['('] body)
      (hisBody : IsBody body) (hopening : Lays body opening)
      (hinner : ∀ line ∈ inner, ∃ text, IsBody text ∧ text ≠ [')'] ∧ Lays text line)
      (hclosing : Lays [')'] closing) (hrest : Writes facts lines) :
      Writes facts (opening :: inner ++ closing :: lines)

/-! ### Directives as texts on a line -/

theorem IsBody.of_plain (hplain : ∀ c ∈ cs, isBlank c = false) (hcomment : Avoids '/' '/' cs) :
    IsBody cs where
  head c hc := hplain c (List.mem_of_mem_head? hc)
  last c hc := hplain c (List.mem_of_mem_getLast? hc)
  noComment := hcomment

theorem IsToken.isBody (h : IsToken path) : IsBody path.toList :=
  .of_plain (fun c hc => (h.plain c hc).1) h.noComment

/-- Two texts, with blanks between them or not. -/
theorem IsBody.append (ha : IsBody a) (hb : IsBody b) (hane : a ≠ []) (hbne : b ≠ [])
    (hgap : IsGap gap) (hapart : gap ≠ [] ∨ a.getLast? ≠ some '/' ∨ b.head? ≠ some '/') :
    IsBody (a ++ gap ++ b) where
  head c hc := by
    rw [List.append_assoc, List.head?_append_of_ne_nil _ hane] at hc
    exact ha.head c hc
  last c hc := by
    rw [List.getLast?_append_of_ne_nil _ hbne] at hc
    exact hb.last c hc
  noComment := by
    by_cases hne : gap = []
    · rw [hne, List.append_nil]
      refine avoids_append.mpr ⟨ha.noComment, hb.noComment, ?_⟩
      rintro _ hlast _ hhead ⟨rfl, rfl⟩
      rcases hapart with hgap | hlast' | hhead'
      · exact hgap hne
      · exact hlast' hlast
      · exact hhead' hhead
    · exact ha.noComment.append_gap hb.noComment hgap rfl rfl hne

theorem SpellsPath.ne_nil (hpath : IsToken path) (h : SpellsPath path cs) : cs ≠ [] := by
  obtain ⟨c, cs', hcs', -⟩ := hpath.exists_cons
  obtain rfl | rfl := h
  · simp [hcs']
  · simp

theorem SpellsPath.isBody (hpath : IsToken path) (h : SpellsPath path cs) : IsBody cs := by
  obtain rfl | rfl := h
  · exact hpath.isBody
  · have hquote : IsBody ['"'] := .of_plain (List.forall_mem_singleton.mpr rfl) (.singleton _)
    have hne : path.toList ≠ [] := by simpa using hpath.ne_empty
    have hopen : IsBody (['"'] ++ [] ++ path.toList) :=
      hquote.append hpath.isBody (by simp) hne (by simp [IsGap]) (.inr (.inl (by decide)))
    have hclose : IsBody (['"'] ++ [] ++ path.toList ++ [] ++ ['"']) :=
      hopen.append hquote (by simp) (by simp) (by simp [IsGap]) (.inr (.inr (by decide)))
    simpa using hclose

theorem SpellsVersion.isBody (h : SpellsVersion version? ds) (hcs : IsBody cs) (hne : cs ≠ []) :
    IsBody (cs ++ ds) := by
  cases h with
  | none => rwa [List.append_nil]
  | some hversion hne' hgap =>
    rw [← List.append_assoc]
    exact hcs.append hversion.isBody hne (by simpa using hversion.ne_empty) hgap (.inl hne')

/-- No fact has an empty text. -/
theorem Fact.Text.ne_nil {fact : Fact} (h : fact.Text cs) : cs ≠ [] := by
  cases h with
  | module hpath h    => exact h.ne_nil hpath
  | require hpath h _ => exact List.append_ne_nil_of_left_ne_nil (h.ne_nil hpath) _
  | replace hold hos  => exact List.append_ne_nil_of_left_ne_nil (hos.ne_nil hold) _

/-- It begins with a character of its path, or with a quote. -/
theorem Fact.Text.head_plain {fact : Fact} (h : fact.Text cs) :
    ∀ c ∈ cs.head?, isBlank c = false ∧ c ∉ ['(', ')'] := by
  cases h with
  | module hpath h    => simpa using h.head_plain hpath []
  | require hpath h _ => exact h.head_plain hpath _
  | replace hold hos  => exact hos.head_plain hold _

/-- The text of a fact is a body. -/
theorem Fact.Text.isBody {fact : Fact} (h : fact.Text cs) : IsBody cs := by
  cases h with
  | module hpath h           => exact h.isBody hpath
  | require hpath h hversion => exact hversion.isBody (h.isBody hpath) (h.ne_nil hpath)
  | @replace _ _ _ _ os vs gap _ hold hos hvs hgap _ htarget =>
    obtain ⟨htoken, gap', ds, vs', hgap', hds, hvs', rfl⟩ := htarget
    have harrow : IsBody "=>".toList := .of_plain (by simpa using ⟨rfl, rfl⟩) (by simp [Avoids])
    have hold' : IsBody (os ++ vs) := hvs.isBody (hos.isBody hold) (hos.ne_nil hold)
    have hne : os ++ vs ≠ [] := List.append_ne_nil_of_left_ne_nil (hos.ne_nil hold) _
    have hfront : IsBody (os ++ vs ++ gap ++ "=>".toList) :=
      hold'.append harrow hne (by decide) hgap (.inr (.inr (by decide)))
    have hlast : (os ++ vs ++ gap ++ "=>".toList).getLast? ≠ some '/' := by
      rw [List.getLast?_append_of_ne_nil _ (by decide)]
      decide
    have hbehind := hfront.append (hds.isBody htoken) (by simp) (hds.ne_nil htoken) hgap'
      (.inr (.inl hlast))
    have hall := hvs'.isBody hbehind (by simp)
    simpa only [List.append_assoc] using hall

/-! ### Reading a line -/

/-- Takes in what a directive says. -/
def Fact.enter (m : GoModule) : Fact → GoModule
  | module path                    => { m with path }
  | require path version           => m.require path version
  | replace old _ target version?  => m.replace old target version?

variable {verb : String} {fact : Fact} {facts : List Fact} {lines inner : List (List Char)}

/-- The verbs that matter, and all others. -/
def verbOf (verb : String) : Verb :=
  if verb = "require" then .require else if verb = "replace" then .replace else .other

/-- A verb that is none of the three is another. -/
theorem verbOf_other (h : verb ∉ ["module", "require", "replace"]) :
    verb ≠ "module" ∧ verbOf verb = .other := by
  simp only [List.mem_cons, List.not_mem_nil, or_false, not_or] at h
  exact ⟨h.1, by rw [verbOf, if_neg h.2.1, if_neg h.2.2]⟩

theorem isVerb_of_mem (h : verb ∈ ["module", "require", "replace"]) : IsVerb verb := by
  simp only [List.mem_cons, List.not_mem_nil, or_false] at h
  rcases h with rfl | rfl | rfl <;> exact ⟨by decide, by simp [isBlank]⟩

/-- A fact has one of the three verbs. -/
theorem Fact.verb_mem (fact : Fact) : fact.verb ∈ ["module", "require", "replace"] := by
  cases fact <;> simp [Fact.verb]

/-- A directive begins with its verb. -/
theorem Directive.takeWhile (hverb : IsVerb verb) (h : Directive verb cs body) :
    body.takeWhile (!isBlank ·) = verb.toList := by
  cases h with
  | bare =>
    have htake := takeWhile_word hverb.2 .nil
    rwa [List.append_nil] at htake
  | behind hne hgap _ =>
    rw [List.append_assoc]
    exact takeWhile_word hverb.2 (.append hne hgap _)

/-- Behind its verb a directive has the text. -/
theorem Directive.dropWhile (hverb : IsVerb verb) (h : Directive verb cs body) :
    dropBlanks (body.dropWhile (!isBlank ·)) = cs := by
  cases h with
  | bare =>
    have hdrop := dropWhile_word hverb.2 .nil
    rw [List.append_nil] at hdrop
    rw [hdrop]
    rfl
  | behind hne hgap hcs =>
    obtain ⟨c, hc, hblank⟩ := hcs
    rw [List.append_assoc, dropWhile_word hverb.2 (.append hne hgap _)]
    refine dropBlanks_append hgap fun d hd => ?_
    obtain rfl := Option.some.inj (hc.symm.trans hd)
    exact hblank

/-- A line that begins with another verb is no `module` directive. -/
theorem Directive.not_module (hverb : IsVerb verb) (hne : verb ≠ "module")
    (h : Directive verb cs body) : moduleDirective? body = none := by
  rw [moduleDirective?, Text.afterFront?]
  split
  · next hfront =>
    obtain ⟨rest, rfl⟩ := List.isPrefixOf_iff_prefix.mp hfront
    rw [List.drop_left]
    simp only [Option.bind_eq_bind, Option.bind_some]
    split
    · next hrest =>
      have hends : EndsHere rest := fun c hc => by
        rw [hc] at hrest
        exact hrest
      have htake := takeWhile_word (isVerb_of_mem (by simp : "module" ∈ _)).2 hends
      rw [h.takeWhile hverb] at htake
      exact absurd (String.toList_inj.mp htake) hne
    · rfl
  · rfl

/-- A directive is split into its verb and its text. -/
theorem splitVerb_directive (hverb : IsVerb verb) (h : Directive verb cs body) :
    splitVerb body = (verbOf verb, cs) := by
  simp only [splitVerb, h.takeWhile hverb, h.dropWhile hverb, String.toList_inj, verbOf]

/-- What the directives of a verb say is taken in, alone on a line or in a block. -/
theorem apply_text (h : fact.Text cs) (hmodule : fact.verb ≠ "module") (m : GoModule) :
    m.apply (verbOf fact.verb) cs = fact.enter m := by
  cases h with
  | module => exact absurd rfl hmodule
  | require hpath h hversion =>
    have hverb : verbOf "require" = .require := by decide
    rw [Fact.verb, hverb, apply, requirement?_append hpath h hversion]
    rfl
  | replace hold hos hvs hgap hapart htarget =>
    have hverb : verbOf "replace" = .replace := by decide
    rw [Fact.verb, hverb, apply, replacement?_append hold hos hvs hgap hapart htarget]
    rfl

/-- A line with another verb opens a block, or says something itself. -/
theorem readLine_directive (hverb : IsVerb verb) (hne : verb ≠ "module")
    (h : Directive verb cs body) (m : GoModule) :
    readLine (none, m) body =
      if cs = ['('] then (some (verbOf verb), m) else (none, m.apply (verbOf verb) cs) := by
  rw [readLine, h.not_module hverb hne, splitVerb_directive hverb h]

/-- **A directive on a line of its own is read as what it says.** -/
theorem readLine_fact (h : fact.Text cs) (hbody : Directive fact.verb cs body) (m : GoModule) :
    readLine (none, m) body = (none, fact.enter m) := by
  by_cases hmodule : fact.verb = "module"
  · cases h with
    | module hpath h =>
      cases hbody with
      | bare => exact absurd rfl (h.ne_nil hpath)
      | behind hne hgap _ =>
        have hread := moduleDirective?_append hpath h hne hgap
        rw [Fact.verb, readLine, hread]
        rfl
    | require => simp [Fact.verb] at hmodule
    | replace => simp [Fact.verb] at hmodule
  · have hparen : cs ≠ ['('] := by
      rintro rfl
      exact (h.head_plain '(' rfl).2 (.head _)
    rw [readLine_directive (isVerb_of_mem fact.verb_mem) hmodule hbody, if_neg hparen,
      apply_text h hmodule]

/-! ### Reading all lines -/

/-- The texts on some lines, the empty ones left out. -/
def contents (lines : List (List Char)) : List (List Char) :=
  (lines.map fun line => trimChars isBlank (dropComment line)).filter (!·.isEmpty)

theorem contents_append (lines rest : List (List Char)) :
    contents (lines ++ rest) = contents lines ++ contents rest := by
  simp [contents]

/-- A blank line has no content. -/
theorem contents_blank (h : Lays [] line) (lines : List (List Char)) :
    contents (line :: lines) = contents lines := by
  have hcontent := h.content ⟨nofun, nofun, .nil⟩
  simp [contents, hcontent]

/-- A line with a body has it as its content. -/
theorem contents_cons (h : Lays body line) (hbody : IsBody body) (hne : body ≠ [])
    (lines : List (List Char)) : contents (line :: lines) = body :: contents lines := by
  simp [contents, h.content hbody, hne]

theorem Directive.ne_nil (hverb : IsVerb verb) (h : Directive verb cs body) : body ≠ [] := by
  rintro rfl
  have htake := h.takeWhile hverb
  exact hverb.1 (String.toList_inj.mp htake.symm)

/-- A directive is a body. -/
theorem Directive.isBody (hverb : IsVerb verb) (hcomment : Avoids '/' '/' verb.toList)
    (h : Directive verb cs body) (hcs : IsBody cs) : IsBody body := by
  have hbody : IsBody verb.toList := .of_plain hverb.2 hcomment
  cases h with
  | bare => exact hbody
  | behind hne hgap hhead =>
    obtain ⟨c, hc, -⟩ := hhead
    have hcs' : cs ≠ [] := by
      rintro rfl
      cases hc
    exact hbody.append hcs (by simpa using hverb.1) hcs' hgap (.inl hne)

theorem avoids_slashes_of_mem (h : verb ∈ ["module", "require", "replace"]) :
    Avoids '/' '/' verb.toList := by
  simp only [List.mem_cons, List.not_mem_nil, or_false] at h
  rcases h with rfl | rfl | rfl <;> decide

theorem isBody_paren {c : Char} (hblank : isBlank c = false) : IsBody [c] :=
  .of_plain (List.forall_mem_singleton.mpr hblank) (.singleton _)

/-- The directives of a block are taken in one after the other. -/
theorem foldl_entries (h : Entries verb facts inner) (hmodule : verb ≠ "module")
    (rest : List (List Char)) (m : GoModule) :
    (contents inner ++ rest).foldl readLine (some (verbOf verb), m) =
      rest.foldl readLine (some (verbOf verb), facts.foldl Fact.enter m) := by
  induction h generalizing m with
  | nil => rfl
  | blank h _ ih =>
    rw [contents_blank h]
    exact ih m
  | @entry fact cs _ _ _ hverb hfact h _ ih =>
    subst hverb
    have hparen : cs ≠ [')'] := by
      rintro rfl
      exact (hfact.head_plain ')' rfl).2 (.tail _ (.head _))
    rw [contents_cons h hfact.isBody hfact.ne_nil, List.cons_append, List.foldl_cons, readLine,
      if_neg hparen, apply_text hfact hmodule, ih, List.foldl_cons]

/-- Nothing in a block of another verb is taken in. -/
theorem foldl_other (h : ∀ line ∈ inner, ∃ text, IsBody text ∧ text ≠ [')'] ∧ Lays text line)
    (rest : List (List Char)) (m : GoModule) :
    (contents inner ++ rest).foldl readLine (some .other, m) =
      rest.foldl readLine (some .other, m) := by
  induction inner with
  | nil => rfl
  | cons line inner ih =>
    obtain ⟨⟨text, hbody, hparen, hlays⟩, hinner⟩ := List.forall_mem_cons.mp h
    by_cases hne : text = []
    · subst hne
      rw [contents_blank hlays, ih hinner]
    · rw [contents_cons hlays hbody hne, List.cons_append, List.foldl_cons, readLine, if_neg hparen,
        apply, ih hinner]

/-- **Lines are read as the facts that they were written for.** -/
theorem foldl_writes (h : Writes facts lines) (m : GoModule) :
    (contents lines).foldl readLine (none, m) = (none, facts.foldl Fact.enter m) := by
  have hclose : ∀ {closing} (_ : Lays [')'] closing) (v : Verb) (m : GoModule)
      (lines : List (List Char)), (contents (closing :: lines)).foldl readLine (some v, m) =
        (contents lines).foldl readLine (none, m) := by
    intro closing hclosing v m lines
    rw [contents_cons hclosing (isBody_paren rfl) (by simp), List.foldl_cons, readLine, if_pos rfl]
  -- between directives no block is open: every case starts and ends with `none`
  induction h generalizing m with
  | nil => rfl
  | blank h _ ih =>
    rw [contents_blank h]
    exact ih m
  | @single fact _ _ _ _ _ hfact hbody h _ ih =>
    have hverb := isVerb_of_mem fact.verb_mem
    have hisBody := hbody.isBody hverb (avoids_slashes_of_mem fact.verb_mem) hfact.isBody
    rw [contents_cons h hisBody (hbody.ne_nil hverb), List.foldl_cons, readLine_fact hfact hbody,
      ih, List.foldl_cons]
  | @block verb _ _ _ entries _ inner _ hmem hbody hopening hinner hclosing _ ih =>
    have hverb : IsVerb verb := isVerb_of_mem (.tail _ hmem)
    have hmodule : verb ≠ "module" := by
      rintro rfl
      simp at hmem
    have hisBody := hbody.isBody hverb (avoids_slashes_of_mem (.tail _ hmem)) (isBody_paren rfl)
    rw [List.cons_append, contents_cons hopening hisBody (hbody.ne_nil hverb), List.foldl_cons,
      readLine_directive hverb hmodule hbody, if_pos rfl, contents_append,
      foldl_entries hinner hmodule, hclose hclosing, ih, List.foldl_append]
  | other hverb hother hcs hbody hisBody h _ ih =>
    obtain ⟨hmodule, hverbOf⟩ := verbOf_other hother
    rw [contents_cons h hisBody (hbody.ne_nil hverb), List.foldl_cons,
      readLine_directive hverb hmodule hbody, if_neg hcs, hverbOf, apply, ih]
  | otherBlock hverb hother hbody hisBody hopening hinner hclosing _ ih =>
    obtain ⟨hmodule, hverbOf⟩ := verbOf_other hother
    rw [List.cons_append, contents_cons hopening hisBody (hbody.ne_nil hverb), List.foldl_cons,
      readLine_directive hverb hmodule hbody, if_pos rfl, hverbOf, contents_append,
      foldl_other hinner, hclose hclosing, ih]

/-! ### What a module file says -/

/-- The path that a fact gives to the module. -/
def Fact.modulePath? : Fact → Option String
  | module path => some path
  | _           => none

/-- A required module and its version. -/
def Fact.requirement? : Fact → Option (String × String)
  | require path version => some (path, version)
  | _                    => none

/-- A replaced module and its target: another module if there is a version, and else a directory as
it is seen from that of the module file. -/
def Fact.replacement? (dir : Path) : Fact → Option (String × Replacement)
  | replace old _ target (some version) => some (old, .module target version)
  | replace old _ target none           => some (old, .directory (dir.child target))
  | _                                   => none

/-- A requirement is found by its path, the latest first. -/
theorem lookup_require (m : GoModule) (path version name : String) :
    (m.require path version).requirements.lookup name =
      if name = path then some version else m.requirements.lookup name := by
  have hfilter : ∀ entries : List (String × String), name ≠ path →
      (entries.filter (·.1 != path)).lookup name = entries.lookup name := by
    intro entries hne
    induction entries with
    | nil => rfl
    | cons entry entries ih =>
      obtain ⟨key, value⟩ := entry
      by_cases hkey : key = path
      · have hname : (name == key) = false := by simpa [hkey] using hne
        simp [hkey, ih, List.lookup_cons, hkey ▸ hname]
      · simp [hkey, ih, List.lookup_cons]
  have hnone : (m.requirements.filter (·.1 != path)).lookup path = none := by
    rw [List.lookup_eq_none_iff]
    intro entry hentry
    obtain ⟨-, hne⟩ := List.mem_filter.mp hentry
    have hne : entry.1 ≠ path := by simpa using hne
    simpa using hne.symm
  rw [require, List.lookup_append]
  by_cases hname : name = path
  · rw [if_pos hname, hname, hnone]
    simp
  · have hbeq : (name == path) = false := by simpa using hname
    rw [if_neg hname, hfilter _ hname, List.lookup_cons, hbeq]
    simp

theorem Fact.path_enter (fact : Fact) (m : GoModule) :
    (fact.enter m).path = fact.modulePath?.getD m.path := by
  cases fact <;> rfl

theorem Fact.dir_enter (fact : Fact) (m : GoModule) : (fact.enter m).dir = m.dir := by
  cases fact <;> rfl

theorem Fact.lookup_enter (fact : Fact) (m : GoModule) (name : String) :
    (fact.enter m).requirements.lookup name =
      (fact.requirement?.toList.lookup name).or (m.requirements.lookup name) := by
  cases fact with
  | require path version =>
    rw [Fact.enter, lookup_require]
    by_cases hname : name = path
    · simp [Fact.requirement?, hname]
    · have hbeq : (name == path) = false := by simpa using hname
      simp [Fact.requirement?, hname, List.lookup_cons, hbeq]
  | _ => rfl

/-- A fact adds the replacement it states. -/
theorem Fact.replacements_enter (fact : Fact) (m : GoModule) :
    (fact.enter m).replacements = m.replacements ++ (fact.replacement? m.dir).toList := by
  cases fact with
  | replace old oldVersion? target version? => cases version? <;> rfl
  | _                                       => exact (List.append_nil _).symm

/-- What was taken in: the last module path, the last version of each required module, and all
replacements in order. -/
theorem foldl_enter (facts : List Fact) (dir : Path) :
    let m := facts.foldl Fact.enter { dir }
    m.path = (facts.filterMap Fact.modulePath?).getLast?.getD "" ∧ m.dir = dir ∧
      (∀ name, m.requirements.lookup name =
        (facts.filterMap Fact.requirement?).reverse.lookup name) ∧
      m.replacements = facts.filterMap (Fact.replacement? dir) := by
  induction facts using List.reverseRecOn with
  | nil => exact ⟨rfl, rfl, fun _ => rfl, rfl⟩
  | append_singleton facts fact ih =>
    obtain ⟨hpath, hdir, hrequirements, hreplacements⟩ := ih
    simp only [List.foldl_append, List.foldl_cons, List.foldl_nil, List.filterMap_append,
      fact.path_enter, fact.dir_enter, fact.lookup_enter, fact.replacements_enter, hpath, hdir,
      hrequirements, hreplacements]
    refine ⟨?_, trivial, fun name => ?_, ?_⟩
    · cases hfact : fact.modulePath? <;> simp [hfact]
    · rw [← List.lookup_append]
      cases hfact : fact.requirement? <;> simp [hfact]
    · cases hfact : fact.replacement? dir <;> simp [hfact]

end GoMocks.GoModule
