import Switchboard.Files.DocumentRoot

/-!
What comes of reading a document. Over any storage a requested path meets one of four ends: a file that is read to its
end (`Holds`), nothing that could be read (`Missing`), what may not be read (`Forbidden`), or a failure on the way
(`Unreadable`), which may come after a part of the file. Every path meets one of them (`read_cases`), and each has its
own result.
-/

namespace Switchboard.Files.DocumentRoot

variable {d : DocumentRoot} {requested : String} {content : Bytes}

/-- A requested path leads to a file that is read to its end. -/
def Holds (d : DocumentRoot) (requested : String) (content : Bytes) : Prop :=
  ∃ path, d.resolve requested = .ok path ∧ d.storage.opens path = .ok (.file content none)

/-- A requested path leads to nothing, or to a folder. -/
def Missing (d : DocumentRoot) (requested : String) : Prop :=
  ∃ path, d.resolve requested = .ok path ∧
    (d.storage.opens path = .error .missing ∨ d.storage.opens path = .error .invalid ∨
      d.storage.opens path = .ok .folder)

/-- A requested path leads upwards, or to what may not be opened. -/
def Forbidden (d : DocumentRoot) (requested : String) : Prop :=
  d.resolve requested = .error .noAccess ∨
    ∃ path, d.resolve requested = .ok path ∧ d.storage.opens path = .error .denied

/-- What a requested path leads to cannot be opened, cannot be told, or is a file whose reading fails after a part. -/
def Unreadable (d : DocumentRoot) (requested : String) : Prop :=
  ∃ path detail, d.resolve requested = .ok path ∧
    (d.storage.opens path = .error (.other detail) ∨ d.storage.opens path = .ok (.obscure detail) ∨
      ∃ part, d.storage.opens path = .ok (.file part (some detail)))

/-- A requested path is refused for leading upwards only. -/
theorem resolve_error {f : Fault} (h : d.resolve requested = .error f) : f = .noAccess := by
  rw [resolve, names] at h
  split at h
  · exact (Except.error.inj h).symm
  · split at h <;> cases h

/-- What reading gives, by how the path resolves and what the storage gives for it. -/
theorem read_of_resolve {path : String} (h : d.resolve requested = .ok path) :
    d.read requested =
      match d.storage.opens path with
      | .error f => (.error f.fault, [])
      | .ok opened => d.readOpened path opened := by
  rcases ho : d.storage.opens path with f | opened <;> simp only [read, h, ho]

/-- Reading comes to one of the four ends. -/
theorem read_cases (d : DocumentRoot) (requested : String) :
    (∃ type content, d.read requested = (.ok type, content) ∧ d.Holds requested content) ∨
      (d.read requested).1 = .error .notFound ∧ d.Missing requested ∨
      (d.read requested).1 = .error .noAccess ∧ d.Forbidden requested ∨
      ∃ detail, (d.read requested).1 = .error (.io detail) ∧ d.Unreadable requested := by
  rcases hpath : d.resolve requested with f | path
  · obtain rfl := resolve_error hpath
    refine Or.inr (Or.inr (Or.inl ⟨?_, Or.inl hpath⟩))
    rw [read, hpath]
  have hread := read_of_resolve hpath
  rcases hopen : d.storage.opens path with (_ | _ | _ | detail) | (detail | _ | ⟨content, _ | detail⟩) <;>
    rw [hopen] at hread <;> rw [hread]
  case error.missing => exact Or.inr (Or.inl ⟨rfl, path, hpath, Or.inl hopen⟩)
  case error.denied => exact Or.inr (Or.inr (Or.inl ⟨rfl, Or.inr ⟨path, hpath, hopen⟩⟩))
  case error.invalid => exact Or.inr (Or.inl ⟨rfl, path, hpath, Or.inr (Or.inl hopen)⟩)
  case error.other => exact Or.inr (Or.inr (Or.inr ⟨detail, rfl, path, detail, hpath, Or.inl hopen⟩))
  case ok.obscure => exact Or.inr (Or.inr (Or.inr ⟨detail, rfl, path, detail, hpath, Or.inr (Or.inl hopen)⟩))
  case ok.folder => exact Or.inr (Or.inl ⟨rfl, path, hpath, Or.inr (Or.inr hopen)⟩)
  case ok.file.none => exact Or.inl ⟨_, content, rfl, path, hpath, hopen⟩
  case ok.file.some =>
    exact Or.inr (Or.inr (Or.inr ⟨detail, rfl, path, detail, hpath, Or.inr (Or.inr ⟨content, hopen⟩)⟩))

/-- A file that is read to its end is given as a whole. -/
theorem Holds.read (h : d.Holds requested content) : ∃ type, d.read requested = (.ok type, content) := by
  obtain ⟨path, hpath, hopen⟩ := h
  rw [read_of_resolve hpath, hopen]
  exact ⟨_, rfl⟩

theorem Missing.read (h : d.Missing requested) : (d.read requested).1 = .error .notFound := by
  obtain ⟨path, hpath, hopen⟩ := h
  rw [read_of_resolve hpath]
  rcases hopen with h | h | h <;> rw [h] <;> rfl

theorem Forbidden.read (h : d.Forbidden requested) : (d.read requested).1 = .error .noAccess := by
  rcases h with h | ⟨path, hpath, hopen⟩
  · rw [DocumentRoot.read, h]
  · rw [read_of_resolve hpath, hopen]
    rfl

theorem Unreadable.read (h : d.Unreadable requested) : ∃ detail, (d.read requested).1 = .error (.io detail) := by
  obtain ⟨path, detail, hpath, hopen⟩ := h
  rw [read_of_resolve hpath]
  rcases hopen with h | h | ⟨part, h⟩ <;> rw [h] <;> exact ⟨detail, rfl⟩

end Switchboard.Files.DocumentRoot
