import HostDiscovery.Text.Order

/-!
# Properties

A finite map from texts to texts. The entries are kept in the strict order of
their keys by code points, so two maps with the same entries are equal.
`insert` is the only way in: it replaces the value of a key that is there.
-/
namespace HostDiscovery

def Ordered (entries : List (Text × Text)) : Prop :=
  entries.Pairwise fun a b => Text.precedes a.1 b.1 = true

structure Properties where
  entries : List (Text × Text)
  ordered : Ordered entries

namespace Properties

/-- The entries with a key and its value put in their place. -/
def place (key value : Text) : List (Text × Text) → List (Text × Text)
  | [] => [(key, value)]
  | e :: rest =>
    if e.1 = key then (key, value) :: rest
    else if Text.precedes key e.1 then (key, value) :: e :: rest
    else e :: place key value rest

theorem mem_place {key value : Text} {e : Text × Text} {entries : List (Text × Text)}
    (h : e ∈ place key value entries) : e = (key, value) ∨ e ∈ entries := by
  induction entries with
  | nil => simpa [place] using h
  | cons f rest ih =>
    simp only [place] at h
    split at h
    · rcases List.mem_cons.mp h with h | h
      · exact .inl h
      · exact .inr (List.mem_cons_of_mem _ h)
    · split at h
      · rcases List.mem_cons.mp h with h | h
        · exact .inl h
        · exact .inr h
      · rcases List.mem_cons.mp h with h | h
        · exact .inr (h ▸ List.mem_cons_self)
        · exact (ih h).imp id (List.mem_cons_of_mem _)

theorem ordered_place {key value : Text} {entries : List (Text × Text)} (h : Ordered entries) :
    Ordered (place key value entries) := by
  induction entries with
  | nil => simp [place, Ordered]
  | cons e rest ih =>
    obtain ⟨hall, hrest⟩ := List.pairwise_cons.mp h
    simp only [place]
    split
    · rename_i heq
      exact List.pairwise_cons.mpr ⟨fun f hf => heq ▸ hall f hf, hrest⟩
    · rename_i hne
      split
      · rename_i hlt
        refine List.pairwise_cons.mpr ⟨fun f hf => ?_, h⟩
        rcases List.mem_cons.mp hf with rfl | hf
        · exact hlt
        · exact Text.precedes_trans hlt (hall f hf)
      · rename_i hlt
        refine List.pairwise_cons.mpr ⟨fun f hf => ?_, ih hrest⟩
        rcases mem_place hf with rfl | hf
        · exact Text.precedes_of_ne (Ne.symm hne) (by simpa using hlt)
        · exact hall f hf

def empty : Properties := ⟨[], List.Pairwise.nil⟩

instance : Inhabited Properties := ⟨empty⟩

def insert (m : Properties) (key value : Text) : Properties :=
  ⟨place key value m.entries, ordered_place m.ordered⟩

/-- The map of entries in the order they were given; the last value of a key counts. -/
def ofEntries (entries : List (Text × Text)) : Properties :=
  entries.foldl (fun m e => m.insert e.1 e.2) empty

def get? (m : Properties) (key : Text) : Option Text :=
  (m.entries.find? (·.1 == key)).map (·.2)

def size (m : Properties) : Nat := m.entries.length

theorem eq_of_entries_eq {m m' : Properties} (h : m.entries = m'.entries) : m = m' := by
  cases m
  cases m'
  subst h
  rfl

end Properties

end HostDiscovery
