import GoMocks.Lookup

/-!
# Inquiries — their outcomes

Where packages are given by a function, the outcome of an inquiry is that of its steps, one after
the other.

* `Inquiry.answer_bind`, `answer_tryCatch`: the outcome of a step and what follows.
* `Inquiry.answer_bind_eq_ok`, `answer_bind_eq_error`: when it succeeds, and when it fails.
* `Inquiry.exists_of_answer_mapM_eq_ok`, `exists_of_answer_mapM_eq_error`: inquiries for the items
  of a list.
-/

namespace GoMocks

variable {α β : Type} {packages : String → Option SourcePackage}

/-- What a lookup and its continuation answer. -/
theorem Lookup.answer_bind (f : α → Lookup β) :
    ∀ m : Lookup α, (m >>= f).answer packages = (f (m.answer packages)).answer packages
  | .done _        => rfl
  | .ask path next => Lookup.answer_bind f (next (packages path))

namespace Inquiry

@[simp]
theorem answer_pure (a : α) : answer packages (pure a) = .ok a := rfl

@[simp]
theorem answer_throw (e : Error) : answer packages (throw e : Inquiry α) = .error e := rfl

@[simp]
theorem answer_find (path : String) : answer packages (find path) = .ok (packages path) := rfl

@[simp]
theorem answer_bind (x : Inquiry α) (f : α → Inquiry β) :
    answer packages (x >>= f) = answer packages x >>= fun a => answer packages (f a) := by
  rw [answer, answer, ExceptT.run_bind, Lookup.answer_bind]
  cases x.run.answer packages <;> rfl

/-- What is caught is answered by the handler. -/
@[simp]
theorem answer_tryCatch (x : Inquiry α) (handle : Error → Inquiry α) :
    answer packages (tryCatch x handle) =
      tryCatch (answer packages x) fun e => answer packages (handle e) := by
  rw [answer, answer, ExceptT.run_tryCatch, Lookup.answer_bind]
  cases x.run.answer packages <;> rfl

theorem answer_tryCatch_of_ok {x : Inquiry α} {a : α} (handle : Error → Inquiry α)
    (h : answer packages x = .ok a) : answer packages (tryCatch x handle) = .ok a := by
  rw [answer_tryCatch, h]
  rfl

theorem answer_tryCatch_of_error {x : Inquiry α} {e : Error} (handle : Error → Inquiry α)
    (h : answer packages x = .error e) :
    answer packages (tryCatch x handle) = answer packages (handle e) := by
  rw [answer_tryCatch, h]
  rfl

/-- Two inquiries in turn answer when both do. -/
theorem answer_bind_eq_ok {x : Inquiry α} {f : α → Inquiry β} {b : β} :
    answer packages (x >>= f) = .ok b ↔
      ∃ a, answer packages x = .ok a ∧ answer packages (f a) = .ok b := by
  rw [answer_bind]
  cases answer packages x with
  | error e => exact ⟨nofun, fun ⟨_, h, _⟩ => nomatch h⟩
  | ok a    => exact ⟨fun h => ⟨a, rfl, h⟩, fun ⟨_, h, h'⟩ => Except.ok.inj h ▸ h'⟩

/-- Two inquiries in turn fail with the first failure. -/
theorem answer_bind_eq_error {x : Inquiry α} {f : α → Inquiry β} {e : Error} :
    answer packages (x >>= f) = .error e ↔
      answer packages x = .error e ∨
        ∃ a, answer packages x = .ok a ∧ answer packages (f a) = .error e := by
  rw [answer_bind]
  cases answer packages x with
  | error e' =>
    refine ⟨fun h => .inl (congrArg _ (Except.error.inj h)), ?_⟩
    rintro (h | ⟨_, h, _⟩)
    · exact congrArg _ (Except.error.inj h)
    · exact nomatch h
  | ok a =>
    refine ⟨fun h => .inr ⟨a, rfl, h⟩, ?_⟩
    rintro (h | ⟨_, h, h'⟩)
    · exact nomatch h
    · exact Except.ok.inj h ▸ h'

/-- An inquiry for each item of a list gives what it gives for the items. -/
theorem exists_of_answer_mapM_eq_ok {f : α → Inquiry β} {as : List α} {bs : List β}
    (h : answer packages (as.mapM f) = .ok bs) {a : α} (ha : a ∈ as) :
    ∃ b ∈ bs, answer packages (f a) = .ok b := by
  induction as generalizing bs with
  | nil => exact nomatch ha
  | cons a' as ih =>
    rw [List.mapM_cons] at h
    obtain ⟨b, hb, h⟩ := answer_bind_eq_ok.mp h
    obtain ⟨bs', hbs', h⟩ := answer_bind_eq_ok.mp h
    obtain rfl := Except.ok.inj h
    rcases List.mem_cons.mp ha with rfl | ha
    · exact ⟨b, .head _, hb⟩
    · obtain ⟨b', hmem, hb'⟩ := ih hbs' ha
      exact ⟨b', .tail _ hmem, hb'⟩

/-- What it gives was given for one of them. -/
theorem exists_of_mem_answer_mapM {f : α → Inquiry β} {as : List α} {bs : List β}
    (h : answer packages (as.mapM f) = .ok bs) {b : β} (hb : b ∈ bs) :
    ∃ a ∈ as, answer packages (f a) = .ok b := by
  induction as generalizing bs with
  | nil => exact nomatch Except.ok.inj h ▸ hb
  | cons a as ih =>
    rw [List.mapM_cons] at h
    obtain ⟨b', hb', h⟩ := answer_bind_eq_ok.mp h
    obtain ⟨bs', hbs', h⟩ := answer_bind_eq_ok.mp h
    obtain rfl := Except.ok.inj h
    rcases List.mem_cons.mp hb with rfl | hb
    · exact ⟨a, .head _, hb'⟩
    · obtain ⟨a', ha', h⟩ := ih hbs' hb
      exact ⟨a', .tail _ ha', h⟩

/-- When it fails, it has failed for one of them. -/
theorem exists_of_answer_mapM_eq_error {f : α → Inquiry β} {as : List α} {e : Error}
    (h : answer packages (as.mapM f) = .error e) :
    ∃ a ∈ as, answer packages (f a) = .error e := by
  induction as with
  | nil => exact nomatch h
  | cons a as ih =>
    rw [List.mapM_cons] at h
    rcases answer_bind_eq_error.mp h with ha | ⟨b, -, h⟩
    · exact ⟨a, .head _, ha⟩
    · rcases answer_bind_eq_error.mp h with has | ⟨bs, -, h⟩
      · obtain ⟨a', ha', he⟩ := ih has
        exact ⟨a', .tail _ ha', he⟩
      · exact nomatch h

end Inquiry

end GoMocks
