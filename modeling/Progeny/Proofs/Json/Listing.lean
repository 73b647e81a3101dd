import Mathlib.Data.List.DropRight
import Progeny.Proofs.Json.Reading

/-!
# What a record lists

A record is an object with members, or a list of the first of its fields.  Either way its text is a
listing of names and values, in some order; a value is known by the text from where it begins.  A
record that is read has such a listing, and each of its slots holds what is listed under its name,
whatever else is listed before, between and behind.
-/

namespace Progeny.Json

open Fallible

/-- Names, each with the text that begins with its value. -/
abbrev Listing := List (String × List Char)

/-! ### Listings of a text -/

section Text

/- How far the value that is listed under a name goes. -/
variable (ends : String → List Char → List Char → Prop)

/-- The members that an object lists before its closing brace; `rest` is the text behind it. -/
inductive Members : (first : Bool) → List Char → Listing → (rest : List Char) → Prop where
  | done {first cs rest} (close : cs.dropWhile Reader.isSpace = '\x7d' :: rest) :
    Members first cs [] rest
  | next {first cs body name behind place after found rest}
    (quote : nextPart first cs = '"' :: body)
    (named : Reader.stringBody true body = .ok (name, behind))
    (colon : behind.dropWhile Reader.isSpace = ':' :: place)
    (value : ends name place after) (others : Members false after found rest) :
    Members first cs ((name, place) :: found) rest

/-- The elements before a closing bracket, listed under the first of the given names. -/
inductive Elements : List String → (first : Bool) → List Char → Listing → (rest : List Char) →
    Prop where
  | done {names first cs rest} (close : cs.dropWhile Reader.isSpace = ']' :: rest) :
    Elements names first cs [] rest
  | next {name names first cs after found rest} (value : ends name (nextPart first cs) after)
    (others : Elements names false after found rest) :
    Elements (name :: names) first cs ((name, nextPart first cs) :: found) rest

/-- The listing of an object. -/
def ListsObject (cs : List Char) (found : Listing) (rest : List Char) : Prop :=
  ∃ body, cs.dropWhile Reader.isSpace = '\x7b' :: body ∧ Members ends true body found rest

/-- The listing of a record whose fields have the given names. -/
def ListsRecord (names : List String) (cs : List Char) (found : Listing) (rest : List Char) :
    Prop :=
  ListsObject ends cs found rest ∨
    ∃ body, cs.dropWhile Reader.isSpace = '[' :: body ∧ Elements ends names true body found rest

end Text

/-! ### Slots -/

variable {α ρ : Type} {mode : Mode} {fields : List (FieldReader ρ)}

/-- The value that a text begins with, if it is one. -/
def Reader.valueAt (value : Reader α) (place : List Char) : Option α :=
  (value place).toOption.map Prod.fst

theorem Reader.valueAt_eq_some {value : Reader α} {cs rest : List Char} {a : α}
    (h : value cs = .ok (a, rest)) : valueAt value cs = some a := by
  rw [valueAt, h]
  rfl

/-- Where a value that is listed under a name ends: where a field of that name has read it, or where
it is passed over if there is no such field. -/
inductive Ends (mode : Mode) (fields : List (FieldReader ρ)) :
    String → (place after : List Char) → Prop where
  | read {field r r' place after} (mem : field ∈ fields)
    (read : field.read mode r place = .ok (r', after)) : Ends mode fields field.name place after
  | skipped {name place after} (unknown : name ∉ fields.map (·.name))
    (skip : Reader.skip mode place = .ok ((), after)) : Ends mode fields name place after

/-- The field keeps what `value` reads in the component `get`. -/
structure FieldReader.Fills (field : FieldReader ρ) (mode : Mode) (get : ρ → Option α)
    (value : Reader α) : Prop where
  isGiven : ∀ r, field.isGiven r = (get r).isSome
  read : ∀ r cs r' rest, field.read mode r cs = .ok (r', rest) →
    ∃ a, value cs = .ok (a, rest) ∧ get r' = some a

/-- The field leaves the component `get` as it is. -/
def FieldReader.Spares (field : FieldReader ρ) (mode : Mode) (get : ρ → Option α) : Prop :=
  ∀ r cs r' rest, field.read mode r cs = .ok (r', rest) → get r' = get r

section Of

variable {β : Type} {name : String} {get : ρ → Option α} {set : ρ → α → ρ} {value : Mode → Reader α}

theorem FieldReader.fills_of (get_set : ∀ r a, get (set r a) = some a) :
    (FieldReader.of name get set value).Fills mode get (value mode) where
  isGiven _ := rfl
  read r cs r' rest h := by
    obtain ⟨a, middle, read, h⟩ := bind_eq_ok.mp h
    cases h
    exact ⟨a, read, get_set r a⟩

theorem FieldReader.spares_of {other : ρ → Option β} (same : ∀ r a, other (set r a) = other r) :
    (FieldReader.of name get set value).Spares mode other := by
  intro r cs r' rest h
  obtain ⟨a, middle, -, h⟩ := bind_eq_ok.mp h
  cases h
  exact same r a

end Of

/-- A component of a record that the fields of one name fill and all others leave as it is. -/
structure Slot (mode : Mode) (fields : List (FieldReader ρ)) (α : Type) where
  name : String
  get : ρ → Option α
  /-- What reads the value. -/
  value : Reader α
  known : name ∈ fields.map (·.name)
  cell : ∀ field ∈ fields,
    if field.name = name then field.Fills mode get value else field.Spares mode get

namespace Slot

variable {slot : Slot mode fields α} {field : FieldReader ρ} {found : Listing} {name : String}
  {place after : List Char} {r r₁ r' : ρ}

theorem fills (slot : Slot mode fields α) (mem : field ∈ fields) (own : field.name = slot.name) :
    field.Fills mode slot.get slot.value := by
  have cell := slot.cell field mem
  rwa [if_pos own] at cell

theorem spares (slot : Slot mode fields α) (mem : field ∈ fields) (other : field.name ≠ slot.name) :
    field.Spares mode slot.get := by
  have cell := slot.cell field mem
  rwa [if_neg other] at cell

/-- The value that is listed for the slot, if any. -/
def listed (slot : Slot mode fields α) (found : Listing) : Option α :=
  (found.lookup slot.name).bind (Reader.valueAt slot.value)

/-- From `r` to `r'` the slot has got what is listed for it, if that is anything.  It is listed
once, or not at all if `r` has it already, and with a proper value. -/
structure Takes (slot : Slot mode fields α) (found : Listing) (r r' : ρ) : Prop where
  get : slot.get r' = (slot.get r).or (slot.listed found)
  once : (found.map Prod.fst).count slot.name ≤ if (slot.get r).isSome then 0 else 1
  proper : ∀ place, (slot.name, place) ∈ found → ∃ a after, slot.value place = .ok (a, after)

theorem Takes.eq_listed (h : slot.Takes found r r') (fresh : slot.get r = none) :
    slot.get r' = slot.listed found := by
  rw [h.get, fresh, Option.none_or]

theorem Takes.count_le_one (h : slot.Takes found r r') :
    (found.map Prod.fst).count slot.name ≤ 1 := by
  refine h.once.trans ?_
  split
  · exact Nat.zero_le 1
  · exact Nat.le_refl 1

theorem takes_nil (slot : Slot mode fields α) (r : ρ) : slot.Takes [] r r where
  get := by rw [listed, List.lookup_nil, Option.bind_none, Option.or_none]
  once := Nat.zero_le _
  proper := nofun

/-- What is listed under another name is of no concern. -/
theorem Takes.other (h : slot.Takes found r₁ r') (other : name ≠ slot.name)
    (same : slot.get r₁ = slot.get r) : slot.Takes ((name, place) :: found) r r' where
  get := by
    rw [h.get, same, listed, listed, List.lookup_cons, beq_eq_false_iff_ne.mpr other.symm]
  once := by
    rw [List.map_cons, List.count_cons_of_ne other, ← same]
    exact h.once
  proper place mem := by
    obtain here | later := List.mem_cons.mp mem
    · exact absurd (congrArg Prod.fst here).symm other
    · exact h.proper place later

theorem Takes.own (h : slot.Takes found r₁ r') {a : α} (fresh : slot.get r = none)
    (read : slot.value place = .ok (a, after)) (filled : slot.get r₁ = some a) :
    slot.Takes ((slot.name, place) :: found) r r' where
  get := by
    rw [h.get, filled, fresh, Option.some_or, Option.none_or, listed, List.lookup_cons_self,
      Option.bind_some, Reader.valueAt_eq_some read]
  once := by
    have once := h.once
    rw [filled] at once
    rw [List.map_cons, List.count_cons_self, fresh]
    exact Nat.succ_le_succ once
  proper place mem := by
    obtain here | later := List.mem_cons.mp mem
    · cases here
      exact ⟨a, after, read⟩
    · exact h.proper place later

/-- A field has read its value, and the rest is taken. -/
theorem Takes.next (h : slot.Takes found r₁ r') (mem : field ∈ fields)
    (read : field.read mode r place = .ok (r₁, after))
    (fresh : field.name = slot.name → slot.get r = none) :
    slot.Takes ((field.name, place) :: found) r r' := by
  by_cases own : field.name = slot.name
  · obtain ⟨a, value, filled⟩ := (slot.fills mem own).read r place r₁ after read
    rw [own]
    exact h.own (fresh own) value filled
  · exact h.other own (slot.spares mem own r place r₁ after read)

end Slot

/-! ### Records -/

namespace Reader

variable {cs rest middle : List Char} {first : Bool} {r r' none : ρ}

/-- Members that were read are listed, and each slot has taken what is listed for it. -/
theorem fieldsByName_lists {fuel : Nat}
    (h : fieldsByName mode fields fuel first r cs = .ok (r', middle))
    (close : endObject middle = .ok ((), rest)) :
    ∃ found, Members (Ends mode fields) first cs found rest ∧
      ∀ {α : Type} (slot : Slot mode fields α), slot.Takes found r r' := by
  -- member by member; what is read or passed over stands before what the others list
  induction fuel generalizing first r cs with
  | zero => cases h
  | succ fuel ih =>
    obtain ⟨more, cs₁, goesOn, h⟩ := bind_eq_ok.mp h
    cases more with
    | false =>
      cases h
      obtain rfl := hasMember_eq_false goesOn
      have closed := endObject_eq_ok close
      rw [List.dropWhile_idempotent] at closed
      exact ⟨[], .done closed, fun slot => slot.takes_nil _⟩
    | true =>
      obtain ⟨body, quote, rfl⟩ := hasMember_eq_true goesOn
      rw [if_pos rfl, advance_bind, List.drop_one, List.tail_cons] at h
      obtain ⟨name, behind, named, h⟩ := bind_eq_ok.mp h
      cases search : fields.find? (·.name == name) with
      | none =>
        rw [search] at h
        obtain ⟨⟨⟩, place, colon, h⟩ := bind_eq_ok.mp h
        obtain ⟨⟨⟩, after, skipped, h⟩ := bind_eq_ok.mp h
        obtain ⟨found, members, takes⟩ := ih h
        have unknown : name ∉ fields.map (·.name) := by simpa using search
        have colon := colon_eq_ok colon
        exact ⟨_, .next quote named colon (.skipped unknown skipped) members,
          fun slot => (takes slot).other (fun same => unknown (same ▸ slot.known)) rfl⟩
      | some field =>
        rw [search] at h
        obtain ⟨-, h⟩ | ⟨unread, h⟩ := ite_eq_ok h
        · cases h
        obtain ⟨⟨⟩, place, colon, h⟩ := bind_eq_ok.mp h
        obtain ⟨r₁, after, read, h⟩ := bind_eq_ok.mp h
        obtain ⟨found, members, takes⟩ := ih h
        have mem := List.mem_of_find?_eq_some search
        obtain rfl : field.name = name := by simpa using List.find?_some search
        have colon := colon_eq_ok colon
        refine ⟨_, .next quote named colon (.read mem read) members,
          fun slot => (takes slot).next mem read fun same => ?_⟩
        rw [(slot.fills mem same).isGiven] at unread
        simpa using unread

/-- Elements that were read are listed under the names of the fields, and each slot has taken what
is listed for it. -/
theorem fieldsInOrder_lists {left : List (FieldReader ρ)} (mem : ∀ field ∈ left, field ∈ fields)
    (distinct : (left.map (·.name)).Nodup)
    (h : fieldsInOrder mode true left first r cs = .ok (r', middle))
    (close : endList middle = .ok ((), rest)) :
    ∃ found, Elements (Ends mode fields) (left.map (·.name)) first cs found rest ∧
      ∀ {α : Type} (slot : Slot mode fields α),
        (slot.name ∈ left.map (·.name) → slot.get r = Option.none) → slot.Takes found r r' := by
  -- field by field; none of those that are left has a value yet, so none is written over
  induction left generalizing first r cs with
  | nil =>
    cases h
    exact ⟨[], .done (endList_eq_ok close), fun slot _ => slot.takes_nil _⟩
  | cons field left ih =>
    obtain ⟨more, cs₁, goesOn, h⟩ := bind_eq_ok.mp h
    cases more with
    | false =>
      cases h
      obtain rfl := hasElement_eq_false goesOn
      have closed := endList_eq_ok close
      rw [List.dropWhile_idempotent] at closed
      exact ⟨[], .done closed, fun slot _ => slot.takes_nil _⟩
    | true =>
      obtain rfl := hasElement_eq_true goesOn
      obtain ⟨r₁, after, read, h⟩ := bind_eq_ok.mp h
      obtain ⟨here, mem⟩ := List.forall_mem_cons.mp mem
      obtain ⟨(new : field.name ∉ _), distinct⟩ := List.nodup_cons.mp distinct
      obtain ⟨found, elements, takes⟩ := ih mem distinct h
      refine ⟨_, .next (.read here read) elements, fun slot fresh => ?_⟩
      refine (takes slot fun later => ?_).next here read fun same => fresh ?_
      · have other : field.name ≠ slot.name := fun same => new (same ▸ later)
        exact (slot.spares here other r _ r₁ after read).trans
          (fresh (List.mem_cons_of_mem _ later))
      · exact List.mem_cons.mpr (.inl same.symm)

/-- A record that was read as an object is listed, and each slot has taken what is listed for it. -/
theorem members_lists {body : List Char} (start : cs.dropWhile isSpace = '\x7b' :: body)
    (h : members mode true fields none ('\x7b' :: body) = .ok (r, rest)) :
    ∃ found, ListsObject (Ends mode.inner fields) cs found rest ∧
      ∀ {α : Type} (slot : Slot mode.inner fields α), slot.Takes found none r := by
  obtain ⟨⟨⟩, cs₁, entered, h⟩ := bind_eq_ok.mp h
  obtain rfl := enter_eq_ok entered
  rw [advance_bind, List.drop_one, List.tail_cons] at h
  obtain ⟨fuel, cs₂, left, h⟩ := bind_eq_ok.mp h
  cases left
  obtain ⟨r₁, middle, read, h⟩ := bind_eq_ok.mp h
  obtain ⟨⟨⟩, after, close, h⟩ := bind_eq_ok.mp h
  cases h
  obtain ⟨found, members, takes⟩ := fieldsByName_lists read close
  exact ⟨found, ⟨body, start, members⟩, takes⟩

theorem object_lists (h : object mode true fields none cs = .ok (r, rest)) :
    ∃ found, ListsObject (Ends mode.inner fields) cs found rest ∧
      ∀ {α : Type} (slot : Slot mode.inner fields α), slot.Takes found none r := by
  obtain ⟨c, cs₁, first, h⟩ := bind_eq_ok.mp h
  obtain ⟨body, start, rfl⟩ := valueStart_eq_ok first
  obtain ⟨rfl, h⟩ | ⟨-, h⟩ := ite_eq_ok h
  · exact members_lists start h
  · exact absurd h (refuses_mismatch _ _ _)

theorem record_lists (distinct : (fields.map (·.name)).Nodup)
    (h : record mode true fields none cs = .ok (r, rest)) :
    ∃ found, ListsRecord (Ends mode.inner fields) (fields.map (·.name)) cs found rest ∧
      ∀ {α : Type} (slot : Slot mode.inner fields α),
        slot.get none = Option.none → slot.Takes found none r := by
  obtain ⟨c, cs₁, first, h⟩ := bind_eq_ok.mp h
  obtain ⟨body, start, rfl⟩ := valueStart_eq_ok first
  obtain ⟨rfl, h⟩ | ⟨-, h⟩ := ite_eq_ok h
  · obtain ⟨⟨⟩, cs₁, entered, h⟩ := bind_eq_ok.mp h
    obtain rfl := enter_eq_ok entered
    rw [advance_bind, List.drop_one, List.tail_cons] at h
    obtain ⟨r₁, middle, read, h⟩ := bind_eq_ok.mp h
    obtain ⟨⟨⟩, after, close, h⟩ := bind_eq_ok.mp h
    cases h
    obtain ⟨found, elements, takes⟩ := fieldsInOrder_lists (fun _ mem => mem) distinct read close
    exact ⟨found, .inr ⟨body, start, elements⟩, fun slot empty => takes slot fun _ => empty⟩
  obtain ⟨rfl, h⟩ | ⟨-, h⟩ := ite_eq_ok h
  · obtain ⟨found, object, takes⟩ := members_lists start h
    exact ⟨found, .inl object, fun slot _ => takes slot⟩
  · exact absurd h (refuses_mismatch _ _ _)

theorem ofText_eq_ok {reader : Reader α} {text : String} {a : α} (h : ofText reader text = .ok a) :
    ∃ rest, rest.all isSpace ∧ reader text.toList = .ok (a, rest) := by
  unfold ofText at h
  cases result : reader text.toList with
  | error fault => rw [result] at h; cases h
  | ok read =>
    obtain ⟨b, rest⟩ := read
    rw [result] at h
    dsimp only at h
    split at h
    · rename_i spaces
      cases h
      exact ⟨rest, by simpa using spaces, rfl⟩
    · cases h

end Reader

end Progeny.Json
