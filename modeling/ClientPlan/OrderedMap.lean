/-! # Ordered maps

Maps from strings that remember the order in which their keys were first inserted, as lists of
key and value. -/

namespace ClientPlan

/-- Keys and values, in the order in which the keys were first inserted. -/
abbrev OrderedMap (β : Type) := List (String × β)

namespace OrderedMap

variable {β : Type}

/-- The value of a key. -/
def find? : OrderedMap β → String → Option β
  | [], _ => none
  | (k, v) :: rest, key => if k = key then some v else find? rest key

/-- Sets the value of a key; a key that is already there keeps its place. -/
def insert : OrderedMap β → String → β → OrderedMap β
  | [], key, value => [(key, value)]
  | (k, v) :: rest, key, value =>
    if k = key then (k, value) :: rest else (k, v) :: insert rest key value

/-- Replaces the value of a key by its image, starting from `start` where the key is new. -/
def update (map : OrderedMap β) (key : String) (start : β) (f : β → β) : OrderedMap β :=
  map.insert key (f ((map.find? key).getD start))

/-- The keys, in order. -/
def keys (map : OrderedMap β) : List String :=
  List.map Prod.fst map

@[simp] theorem find?_nil (key : String) : find? ([] : OrderedMap β) key = none := rfl

theorem find?_insert (map : OrderedMap β) (key other : String) (value : β) :
    (map.insert key value).find? other = if key = other then some value else map.find? other := by
  induction map with
  | nil => simp [insert, find?]
  | cons entry rest ih =>
    obtain ⟨k, v⟩ := entry
    by_cases hk : k = key
    · subst hk
      by_cases ho : k = other <;> simp [insert, find?, ho]
    · by_cases ho : k = other
      · subst ho
        simp [insert, find?, hk, Ne.symm hk]
      · simp [insert, find?, hk, ho, ih]

end OrderedMap

end ClientPlan
