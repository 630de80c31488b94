import DeviceSplit.SortedSet

set_option autoImplicit false

/-! # Vocabularies

An enumeration whose values are written as fixed words. The reader of a word and its writer come
from one table, so reading a written word gives the value back (`Vocabulary.find?_word`) and only
written words are read (`Vocabulary.word_of_find?`). -/

namespace DeviceSplit

/-- An enumeration with a word for each of its values. -/
class Vocabulary (α : Type) where
  /-- The name of the enumeration in messages. -/
  family : String
  all : List α
  word : α → String
  mem_all : ∀ a, a ∈ all
  word_inj : ∀ {a b : α}, word a = word b → a = b

namespace Vocabulary

variable {α : Type} [Vocabulary α]

/-- The value with a given word. -/
def find? (s : String) : Option α := (all (α := α)).find? (word · == s)

theorem find?_word (a : α) : find? (word a) = some a := by
  have hsome : ((all (α := α)).find? (word · == word a)).isSome := by
    rw [List.find?_isSome]
    exact ⟨a, mem_all a, by simp⟩
  obtain ⟨b, hb⟩ := Option.isSome_iff_exists.1 hsome
  have hword := List.find?_some hb
  simp only [beq_iff_eq] at hword
  rw [find?, hb, word_inj hword]

theorem word_of_find? {s : String} {a : α} (h : find? s = some a) : word a = s := by
  have hword := List.find?_some h
  simpa using hword

theorem find?_eq_some_iff {s : String} {a : α} : find? s = some a ↔ s = word a :=
  ⟨fun h => (word_of_find? h).symm, fun h => h ▸ find?_word a⟩

/-- The order of enumerated values is that of their words. -/
@[reducible] def ranked (α : Type) [Vocabulary α] : Ranked α where
  rank a := rank (word a)
  rank_inj h := word_inj (rank_inj h)

end Vocabulary

end DeviceSplit
