import DomainGen.Data.Basic

/-!
# The entries of a mapping

A mapping is the list of its entries in insertion order. Writing an entry whose key is there
already keeps the first place and the first spelling of the key and takes the new value; an entry
with a new key goes to the end.

* `lookup?`, `get?`, `has` : reading;
* `put`, `update`, `ofList` : writing one entry, many entries, all entries;
* `without` : all entries but those of one key.
-/

namespace DomainGen.Entries

/-- The value of a key. -/
def lookup? (es : Entries) (key : Data) : Option Data :=
  (List.find? (fun e => e.1.sameKey key) es).map (·.2)

/-- The value of a key that is a text. -/
def get? (es : Entries) (key : String) : Option Data :=
  es.lookup? (.text key)

/-- Is there an entry with the key? -/
def has (es : Entries) (key : Data) : Bool :=
  es.any fun e => e.1.sameKey key

/-- The entries with one written: in place if the key is there, else at the end. -/
def put : Entries → Data → Data → Entries
  | [], key, value => [(key, value)]
  | (k, v) :: rest, key, value =>
    if k.sameKey key then (k, value) :: rest else (k, v) :: put rest key value

/-- The entries with another one written whose key is a text. -/
def set (es : Entries) (key : String) (value : Data) : Entries :=
  es.put (.text key) value

/-- The entries with others written one after the other. -/
def update (es : Entries) (others : Entries) : Entries :=
  others.foldl (fun acc e => acc.put e.1 e.2) es

/-- The mapping a list of entries denotes when later entries overwrite earlier ones. -/
def ofList (es : Entries) : Entries :=
  update [] es

/-- The entries less those of one key. -/
def without (es : Entries) (key : Data) : Entries :=
  es.filter fun e => !e.1.sameKey key

/-- Entries from texts to values. -/
def ofFields (fields : List (String × Data)) : Entries :=
  fields.map fun f => (.text f.1, f.2)

/-- A key that was just written is found. -/
theorem lookup?_put_self : ∀ (es : Entries) (key value : Data), key.sameKey key = true →
    (es.put key value).lookup? key = some value
  | [], key, value, h => by simp [put, lookup?, h]
  | (k, v) :: rest, key, value, h => by
    by_cases hk : k.sameKey key = true
    · simp [put, lookup?, hk]
    · have ih := lookup?_put_self rest key value h
      simp only [lookup?] at ih
      simp [put, lookup?, hk, ih]

end DomainGen.Entries
