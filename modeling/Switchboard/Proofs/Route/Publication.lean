import Switchboard.Proofs.Route.History

/-!
How changes of the routes are published. Readers find the latest table that was published, and a change is made in a
copy of it: an update first removes the routes of its name from the copy, and then puts in its own route, which can
fail (`Edit`). Only when the whole edit has succeeded is the copy published, in one step (`Board.mutate`). So a change
that is made publishes the table that `Table.change` gives, and a refused one publishes nothing (`perform_eq`); over
any changes, the latest table is the one that they lead to (`current_performAll`), and each change that was made has
published one table (`length_past_performAll`).
-/

namespace Switchboard.Route

/-! ## Edits of a copy -/

/-- An edit of a table in place. Where it fails it leaves the table as far as it has come. -/
abbrev Edit := Table → Except Refusal Unit × Table

namespace Edit

/-- Removes the routes of a name. -/
def remove (name : String) : Edit := fun t => (.ok (), t.erase name)

/-- Puts a route in its place, unless it is there already. -/
def put (e : Entry) : Edit := fun t =>
  match t.insert e with
  | .error r => (.error r, t)
  | .ok t => (.ok (), t)

/-- One edit and then another, unless the first fails. -/
def andThen (first second : Edit) : Edit := fun t =>
  match first t with
  | (.error r, t) => (.error r, t)
  | (.ok (), t) => second t

end Edit

/-! ## Publishing -/

/-- The table that readers find, and those that it has replaced, the latest first. -/
structure Board where
  current : Table
  past : List Table

namespace Board

/-- Publishes a table. -/
def publish (b : Board) (t : Table) : Board := ⟨t, b.current :: b.past⟩

/-- Edits a copy of the table, and publishes it if the edit succeeds. -/
def mutate (b : Board) (edit : Edit) : Except Refusal Unit × Board :=
  match edit b.current with
  | (.error r, _) => (.error r, b)
  | (.ok (), t) => (.ok (), b.publish t)

/-- Makes a change, or refuses it. A pattern is compiled before anything is edited. -/
def perform (language : PatternLanguage) (b : Board) : Change → Except Refusal Unit × Board
  | .add spec =>
    match Entry.compile language spec with
    | none => (.error .badPattern, b)
    | some e => b.mutate (.put e)
  | .addEntry e => b.mutate (.put e)
  | .update name e => b.mutate (.andThen (.remove name) (.put e))
  | .erase name => b.mutate (.remove name)

/-- The board after some changes. -/
def performAll (language : PatternLanguage) : Board → List Change → Board
  | b, [] => b
  | b, c :: later => performAll language (b.perform language c).2 later

variable {language : PatternLanguage} {b : Board}

theorem mutate_put (b : Board) (e : Entry) :
    b.mutate (.put e) = match b.current.insert e with
      | .error r => (.error r, b)
      | .ok t => (.ok (), b.publish t) := by
  unfold mutate Edit.put
  cases b.current.insert e <;> rfl

/-- An update that fails has removed routes from the copy, which is not published. -/
theorem mutate_remove_put (b : Board) (name : String) (e : Entry) :
    b.mutate (.andThen (.remove name) (.put e)) = match b.current.update name e with
      | .error r => (.error r, b)
      | .ok t => (.ok (), b.publish t) := by
  unfold mutate Edit.andThen Edit.remove Edit.put Table.update
  simp only
  cases (b.current.erase name).insert e <;> rfl

/-- A change publishes the table that it leads to, or is refused and publishes nothing. -/
theorem perform_eq (language : PatternLanguage) (b : Board) (c : Change) :
    b.perform language c = match b.current.change language c with
      | .error r => (.error r, b)
      | .ok t => (.ok (), b.publish t) := by
  cases c with
  | add spec =>
    simp only [perform, Table.change, Table.add]
    cases Entry.compile language spec with
    | none => rfl
    | some e => exact b.mutate_put e
  | addEntry e => exact b.mutate_put e
  | update name e => exact b.mutate_remove_put name e
  | erase name => rfl

theorem perform_of_ok {c : Change} {t : Table} (h : b.current.change language c = .ok t) :
    b.perform language c = (.ok (), b.publish t) := by
  rw [perform_eq, h]

theorem perform_of_error {c : Change} {r : Refusal} (h : b.current.change language c = .error r) :
    b.perform language c = (.error r, b) := by
  rw [perform_eq, h]

/-- Over any changes the latest table is the one that they lead to. -/
theorem current_performAll (language : PatternLanguage) (b : Board) (changes : List Change) :
    (b.performAll language changes).current = b.current.through language changes := by
  induction changes generalizing b with
  | nil => rfl
  | cons c later ih =>
    unfold performAll Table.through
    rcases h : b.current.change language c with r | t
    · rw [perform_of_error h]
      exact ih b
    · rw [perform_of_ok h]
      exact ih (b.publish t)

/-- Each change that is made replaces one table, and a refused one none. -/
theorem length_past_performAll (language : PatternLanguage) (b : Board) (changes : List Change) :
    (b.performAll language changes).past.length =
      b.past.length + (b.current.made language changes).length := by
  induction changes generalizing b with
  | nil => rfl
  | cons c later ih =>
    unfold performAll Table.made
    rcases h : b.current.change language c with r | t
    · rw [perform_of_error h]
      exact ih b
    · rw [perform_of_ok h]
      have hlater := ih (b.publish t)
      have hpast : (b.publish t).past.length = b.past.length + 1 := rfl
      rw [hpast] at hlater
      simp only [List.length_cons]
      show ((b.publish t).performAll language later).past.length =
        b.past.length + ((t.made language later).length + 1)
      rw [hlater]
      show b.past.length + 1 + (t.made language later).length = _
      omega

end Board

/-! ## Updates -/

/-- Without the routes of a name, a table holds what routes of other names give it. -/
theorem Table.holds_erase_iff (t : Table) (cleared name pattern : String) :
    (t.erase cleared).Holds name pattern ↔
      ∃ f ∈ t.entries, f.name ≠ cleared ∧ f.name = name ∧ f.pattern = pattern := by
  unfold Table.Holds
  refine exists_congr fun f => ?_
  rw [Table.entries_erase, List.mem_filter, bne_iff_ne, and_assoc]

/-- An update succeeds just if no route of another name has the name and the pattern of its route. -/
theorem Table.update_ok_iff (t : Table) (name : String) (e : Entry) :
    (∃ t', t.update name e = .ok t') ↔
      ¬ ∃ f ∈ t.entries, f.name ≠ name ∧ f.name = e.name ∧ f.pattern = e.pattern := by
  rw [← t.holds_erase_iff]
  exact (t.erase name).insert_ok_iff e

/-- An update keeps the routes of other names, and puts its own in where it belongs. -/
theorem Table.putIn_of_update {t t' : Table} {name : String} {e : Entry}
    (hsorted : t.entries.Pairwise fun a b => b.weight ≤ a.weight) (h : t.update name e = .ok t') :
    PutIn e (t.entries.filter (·.name != name)) t'.entries := by
  rw [(Table.insert_ok h).2]
  exact putIn_place e (hsorted.filter _)

/-- Any update of a table that some routes were configured in, and that was then changed in any way, is made as a
whole or not at all. It is made just if no route of another name has the name and the pattern of the new route, and then
one table is published: the one before without the routes of the name, the new route put in where it belongs. Otherwise
it is refused for the name and the pattern of the new route, and the board is as it was. In the same way a route that
cannot be added leaves the board as it was, and no change publishes more than one table. -/
theorem update_whole_or_refused {language : PatternLanguage} {specs : List Spec} {start : Table}
    (h : Table.ofSpecs language specs = .ok start) (changes : List Change) :
    let b := Board.performAll language ⟨start, []⟩ changes
    b.current = start.through language changes ∧ b.past.length = (start.made language changes).length ∧
    (∀ name e,
      ((b.perform language (.update name e)).1 = .ok () ↔
        ¬ ∃ f ∈ b.current.entries, f.name ≠ name ∧ f.name = e.name ∧ f.pattern = e.pattern) ∧
      (∀ t, b.current.update name e = .ok t → b.perform language (.update name e) = (.ok (), b.publish t) ∧
        PutIn e (b.current.entries.filter (·.name != name)) t.entries) ∧
      (∀ r, b.current.update name e = .error r →
        b.perform language (.update name e) = (.error (.existed e.name e.pattern), b))) ∧
    (∀ spec r, b.current.add language spec = .error r → b.perform language (.add spec) = (.error r, b) ∧
      (language spec.pattern = none ∧ r = .badPattern ∨
        b.current.Holds spec.name spec.pattern ∧ r = .existed spec.name spec.pattern)) ∧
    ∀ c, (∃ t, b.perform language c = (.ok (), b.publish t)) ∨ ∃ r, b.perform language c = (.error r, b) := by
  intro b
  have hcurrent : b.current = start.through language changes := Board.current_performAll ..
  have hsorted : b.current.entries.Pairwise fun a b => b.weight ≤ a.weight := by
    rw [hcurrent]
    exact ((Keeps.empty.adds h).through changes).arranged.sorted
  refine ⟨hcurrent, ?_, fun name e => ⟨?_, fun t ht => ?_, fun r hr => ?_⟩, fun spec r hr => ?_, fun c => ?_⟩
  · rw [Board.length_past_performAll]
    exact Nat.zero_add _
  · rw [← b.current.update_ok_iff]
    rcases hu : b.current.update name e with r | t
    · rw [Board.perform_of_error (c := .update name e) hu]
      simp
    · rw [Board.perform_of_ok (c := .update name e) hu]
      simp
  · exact ⟨Board.perform_of_ok (c := .update name e) ht, Table.putIn_of_update hsorted ht⟩
  · obtain ⟨-, rfl⟩ := ((b.current.erase name).insert_eq_error_iff e).1 hr
    exact Board.perform_of_error (c := .update name e) hr
  · refine ⟨Board.perform_of_error (c := .add spec) hr, ?_⟩
    exact ((b.current.add_eq_error_iff language spec).1 hr).imp_right And.right
  · rcases hc : b.current.change language c with r | t
    · exact Or.inr ⟨r, Board.perform_of_error hc⟩
    · exact Or.inl ⟨t, Board.perform_of_ok hc⟩

/-- The routes of a shop, and one for its cart that is added later. -/
def shopTable : Table :=
  ⟨[prefixRoute "shop" "/shop", prefixRoute "cart" "/cart", prefixRoute "shop" "/"]⟩

/-- The routes of the shop are to be replaced by one that takes the name and the pattern of the cart, and all of them
stay; replaced by one that takes the name only, all of them go. -/
theorem renamed_route_collides :
    let b : Board := ⟨shopTable, [⟨[prefixRoute "shop" "/shop", prefixRoute "shop" "/"]⟩]⟩
    b.perform prefixLanguage (.update "shop" (prefixRoute "cart" "/cart")) =
        (.error (.existed "cart" "/cart"), b) ∧
      b.perform prefixLanguage (.update "shop" (prefixRoute "cart" "/till")) =
        (.ok (), b.publish ⟨[prefixRoute "cart" "/cart", prefixRoute "cart" "/till"]⟩) := by
  have hstart : Table.ofSpecs prefixLanguage
      [{ pattern := "/", name := "shop" }, { pattern := "/shop", name := "shop" }] =
        .ok ⟨[prefixRoute "shop" "/shop", prefixRoute "shop" "/"]⟩ := rfl
  obtain ⟨-, -, hupdate, -, -⟩ :=
    update_whole_or_refused hstart [.addEntry (prefixRoute "cart" "/cart")]
  constructor
  · exact (hupdate "shop" (prefixRoute "cart" "/cart")).2.2 _ rfl
  · exact ((hupdate "shop" (prefixRoute "cart" "/till")).2.1 _ rfl).1

end Switchboard.Route
