import GoMocks.Proofs.FileTree

/-!
# Publishing — what it leaves behind

Publishing a file changes the tree in at most two places: the directory next to the source, if it
is missing, and the file. The temporary file is gone in every case.

* `FileTree.exists_temporaryPlace?`: there is always a place for a temporary file.
* `FileTree.publish_steps`: all that publishing can do, wherever the path leads.
* `FileTree.publish_cases`: what it comes to beside a directory that is there.
-/

namespace GoMocks.FileTree

variable {t : FileTree} {d l : Location} {p : Path} {n name : String} {content : ByteArray}

/-- Different numbers give different temporary names. -/
theorem temporaryName_injective : temporaryName.Injective := by
  intro a b h
  have hdigits : toString a = toString b := by
    simpa [temporaryName, String.append_right_inj, String.append_left_inj] using h
  exact Nat.repr_injective (by simpa using hdigits)

/-- There is always a place for a temporary file, at which nothing lies. -/
theorem exists_temporaryPlace? (t : FileTree) (dir : Location) :
    ∃ n, t.temporaryPlace? dir = some (dir ++ [n]) ∧ ∀ e ∈ t.entries, e.1 ≠ dir ++ [n] := by
  obtain ⟨i, hi, hfree, -⟩ := firstFresh?_spec temporaryName_injective (t.namesAt dir)
  refine ⟨temporaryName i, by rw [temporaryPlace?, hi]; rfl, ?_⟩
  rw [← entry?_eq_none (by simp)]
  simpa [mem_namesAt] using hfree

/-- A file goes where there is no directory. -/
theorem place_of_filePlace (h : t.filePlace p = .ok l) :
    t.place p = .ok l ∧ t.entry? l ≠ some .directory := by
  rw [filePlace] at h
  split at h
  · cases h
  · cases hplace : t.place p with
    | error fault => rw [hplace] at h; cases h
    | ok m =>
      rw [hplace] at h
      simp only [bind, Except.bind] at h
      split at h
      · cases h
      · next hdirectory =>
        obtain rfl := Except.ok.inj h
        exact ⟨rfl, hdirectory⟩

/-! ### The steps -/

/-- A file with the same content is left unchanged. -/
theorem publish_of_holds (h : t.holds p content = true) (refusals : Refusals) :
    t.publish refusals p content = (t, .ok .unchanged) := by
  rw [publish, if_pos h]

/-- Moving bytes to their place either fails and leaves the tree as it is, or changes what lies at
the place of the path alone, and no directory. -/
theorem replace_cases (refusals : Refusals) {temporary : Location} (hne : temporary ≠ [])
    (hfree : ∀ e ∈ t.entries, e.1 ≠ temporary) (p : Path) (content : ByteArray) :
    (∃ e, t.replace refusals temporary p content = (t, .error e)) ∨
      ∃ l, (t.put temporary (.file content)).place p = .ok l ∧ t.entry? l ≠ some .directory ∧
        t.replace refusals temporary p content = (t.put l (.file content), .ok .written) := by
  have htake : (t.put temporary (.file content)).take temporary = t := take_put hfree _
  rw [replace]
  simp only [htake]
  cases refused? refusals [.write, .flush, .setPermissions] with
  | some fault => exact .inl ⟨_, rfl⟩
  | none =>
    cases refusals .rename with
    | some fault => exact .inl ⟨_, rfl⟩
    | none =>
      cases hfile : (t.put temporary (.file content)).filePlace p with
      | error fault => exact .inl ⟨_, rfl⟩
      | ok l =>
        obtain ⟨hplace, hdirectory⟩ := place_of_filePlace hfile
        refine .inr ⟨l, hplace, fun hl => hdirectory ?_, rfl⟩
        -- nothing lies where the temporary file is made, and so no directory
        have hnone := (entry?_eq_none hne).mpr hfree
        rw [entry?_put hne, if_neg fun e => ?_, hl]
        exact nomatch (e ▸ hl).symm.trans hnone

/-- **All that publishing can do**, where the file does not hold the bytes: directories are made, and
then the bytes are put at the place of the path, or nothing more happens. -/
theorem publish_steps (h : t.holds p content ≠ true) (refusals : Refusals) :
    ∃ t₁ made, t.makeDirectories (fun l => refusals (.makeDirectory l)) (directoryOf p) =
        (t₁, made) ∧
      ((∃ e, t.publish refusals p content = (t₁, .error e)) ∨
        made = .ok () ∧ ∃ temporary l, temporary ≠ [] ∧
          (t₁.put temporary (.file content)).place p = .ok l ∧ t₁.entry? l ≠ some .directory ∧
          t.publish refusals p content = (t₁.put l (.file content), .ok .written)) := by
  rw [publish, if_neg h]
  dsimp only
  rcases t.makeDirectories (fun l => refusals (.makeDirectory l)) (directoryOf p) with
    ⟨t₁, fault | _⟩
  · exact ⟨t₁, _, rfl, .inl ⟨_, rfl⟩⟩
  refine ⟨t₁, _, rfl, ?_⟩
  cases refusals .makeTemporary with
  | some fault => exact .inl ⟨_, rfl⟩
  | none =>
    cases hdir : t₁.place (directoryOf p) with
    | error fault => exact .inl ⟨.io (directoryOf p) fault, by simp only [hdir]⟩
    | ok d =>
      obtain ⟨name, htemporary, hfree⟩ := exists_temporaryPlace? t₁ d
      have hne : d ++ [name] ≠ [] := by simp
      simp only [hdir, htemporary]
      exact (replace_cases refusals hne hfree p content).imp_right fun ⟨l, hl⟩ =>
        ⟨trivial, _, l, hne, hl⟩

/-- **All that publishing can come to**, where the file's directory is to lie in a directory that
is there: the file holds the bytes, and nothing happens; or publishing fails, and at most the
directory is made; or the file holds the bytes from now on. -/
theorem publish_cases (h : t.IsSound) (hp : p.LeadsTo (d ++ [n, name]))
    (hd : t.entry? d = some .directory) (refusals : Refusals) (content : ByteArray) :
    (t.entry? (d ++ [n, name]) = some (.file content) ∧
        t.publish refusals p content = (t, .ok .unchanged)) ∨
      ∃ t₁, (t₁ = t ∨ t.entry? (d ++ [n]) = none ∧ t₁ = t.put (d ++ [n]) .directory) ∧
        ((∃ e, t.publish refusals p content = (t₁, .error e)) ∨
          t₁.entry? (d ++ [n]) = some .directory ∧
            t₁.entry? (d ++ [n, name]) ≠ some .directory ∧
            t.publish refusals p content =
              (t₁.put (d ++ [n, name]) (.file content), .ok .written)) := by
  by_cases hholds : t.holds p content = true
  · exact .inl ⟨(h.holds_iff hp).mp hholds, publish_of_holds hholds refusals⟩
  obtain ⟨t₁, made, hmakes, hsteps⟩ := publish_steps hholds refusals
  have hp' : p.LeadsTo (d ++ [n] ++ [name]) := by simpa using hp
  have hmade : (t₁ = t ∨ t.entry? (d ++ [n]) = none ∧ t₁ = t.put (d ++ [n]) .directory) ∧
      (made = .ok () → t₁.entry? (d ++ [n]) = some .directory) := by
    rcases makeDirectories_cases h hp'.directoryOf hd fun l => refusals (.makeDirectory l) with
      ⟨hdir, hmade⟩ | ⟨hnone, hmade⟩ | ⟨fault, hmade⟩ <;>
      obtain ⟨rfl, rfl⟩ := Prod.mk.inj (hmakes.symm.trans hmade)
    · exact ⟨.inl rfl, fun _ => hdir⟩
    · exact ⟨.inr ⟨hnone, rfl⟩, fun _ => by rw [entry?_put (by simp), if_pos rfl]⟩
    · exact ⟨.inl rfl, nofun⟩
  refine .inr ⟨t₁, hmade.1, hsteps.imp_right ?_⟩
  rintro ⟨hok, temporary, l, -, hplace, hdirectory, hpublish⟩
  obtain ⟨rfl, -⟩ := (place_eq_ok_iff hp).mp hplace
  exact ⟨hmade.2 hok, hdirectory, hpublish⟩

end GoMocks.FileTree
