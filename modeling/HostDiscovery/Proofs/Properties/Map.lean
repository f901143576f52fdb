import HostDiscovery.Properties.Writer
import Mathlib.Algebra.Order.Ring.Nat
import Mathlib.Data.List.Induction
import Mathlib.Data.List.Sort
import Mathlib.Tactic.Lemma

/-! What a map holds when its entries are put in one after the other, and what it gives for a key.
Maps that give the same for every key are equal. -/
namespace HostDiscovery

lemma Text.precedes_irrefl (s : Text) : precedes s s = false := by
  induction s with
  | nil => rfl
  | cons c s ih =>
    have hc : Nat.blt c.toNat c.toNat = false := by simp [← Bool.not_eq_true, Nat.blt_eq]
    simp [precedes, hc, ih]

lemma Text.ne_of_precedes {s t : Text} (h : precedes s t = true) : s ≠ t := by
  rintro rfl
  simp [precedes_irrefl] at h

lemma Text.precedes_asymm {s t : Text} (h : precedes s t = true) : precedes t s = false := by
  by_contra hts
  have hss := precedes_trans h (Bool.not_eq_false _ ▸ hts)
  simp [precedes_irrefl] at hss

namespace Properties

lemma place_last {key value : Text} {entries : List (Text × Text)}
    (h : ∀ e ∈ entries, Text.precedes e.1 key = true) :
    place key value entries = entries ++ [(key, value)] := by
  induction entries with
  | nil => rfl
  | cons e rest ih =>
    have he := h e (by simp)
    rw [place, if_neg (Text.ne_of_precedes he), if_neg (by simp [Text.precedes_asymm he]),
      ih fun f hf => h f (List.mem_cons_of_mem e hf)]
    rfl

lemma ofEntries_append_singleton (entries : List (Text × Text)) (e : Text × Text) :
    ofEntries (entries ++ [e]) = (ofEntries entries).insert e.1 e.2 := by
  simp [ofEntries, List.foldl_append]

lemma entries_ofEntries {entries : List (Text × Text)} (h : Ordered entries) :
    (ofEntries entries).entries = entries := by
  induction entries using List.reverseRecOn with
  | nil => rfl
  | append_singleton entries e ih =>
    obtain ⟨ho, -, hlast⟩ := List.pairwise_append.mp h
    rw [ofEntries_append_singleton]
    change place e.1 e.2 (ofEntries entries).entries = entries ++ [e]
    rw [ih ho]
    exact place_last fun f hf => hlast f hf e (by simp)

lemma ofEntries_entries (m : Properties) : ofEntries m.entries = m :=
  eq_of_entries_eq (entries_ofEntries m.ordered)

lemma mem_of_mem_ofEntries {entries : List (Text × Text)} {e : Text × Text}
    (h : e ∈ (ofEntries entries).entries) : e ∈ entries := by
  induction entries using List.reverseRecOn with
  | nil => simp [ofEntries, empty] at h
  | append_singleton entries f ih =>
    rw [ofEntries_append_singleton] at h
    rcases mem_place h with rfl | h
    · simp
    · exact List.mem_append_left _ (ih h)

lemma find?_place_self (key value : Text) (entries : List (Text × Text)) :
    (place key value entries).find? (·.1 == key) = some (key, value) := by
  induction entries with
  | nil => simp [place]
  | cons e rest ih =>
    rw [place]
    split_ifs with he
    · simp
    · simp
    · have hne : (e.1 == key) = false := by simpa using he
      rw [List.find?_cons, hne]
      exact ih

lemma find?_place_of_ne {key other : Text} (hne : key ≠ other) (value : Text)
    (entries : List (Text × Text)) :
    (place key value entries).find? (·.1 == other) = entries.find? (·.1 == other) := by
  have hkey : (key == other) = false := by simpa using hne
  induction entries with
  | nil => simp [place, hkey]
  | cons e rest ih =>
    rw [place]
    split_ifs with he
    · simp [he, hkey]
    · simp [List.find?_cons, hkey]
    · rw [List.find?_cons, List.find?_cons, ih]

lemma get?_insert (m : Properties) (key value other : Text) :
    (m.insert key value).get? other = if key = other then some value else m.get? other := by
  split_ifs with h
  · subst h
    have hfind := find?_place_self key value m.entries
    simp [get?, insert, hfind]
  · have hfind := find?_place_of_ne h value m.entries
    simp [get?, insert, hfind]

lemma get?_eq_some_iff {m : Properties} {key value : Text} :
    m.get? key = some value ↔ (key, value) ∈ m.entries := by
  obtain ⟨entries, hordered⟩ := m
  unfold get?
  induction entries with
  | nil => simp
  | cons e rest ih =>
    obtain ⟨hall, hrest⟩ := List.pairwise_cons.mp hordered
    rw [List.find?_cons, List.mem_cons]
    by_cases he : e.1 = key
    · subst he
      have hnot : (e.1, value) ∉ rest :=
        fun hmem => Text.ne_of_precedes (hall _ hmem) rfl
      simp [hnot, Prod.ext_iff, eq_comm]
    · have hne : (e.1 == key) = false := by simpa using he
      have hpair : (key, value) ≠ e := fun h => he (by simp [← h])
      rw [hne, or_iff_right hpair]
      exact ih hrest

lemma eq_of_get?_eq {m m' : Properties} (h : ∀ key, m.get? key = m'.get? key) : m = m' := by
  have : Std.Irrefl fun a b : Text × Text => Text.precedes a.1 b.1 = true :=
    ⟨fun a ha => Text.ne_of_precedes ha rfl⟩
  have : Std.Antisymm fun a b : Text × Text => Text.precedes a.1 b.1 = true :=
    ⟨fun a b hab hba => by simp [Text.precedes_asymm hab] at hba⟩
  refine eq_of_entries_eq (List.Pairwise.eq_of_mem_iff m.ordered m'.ordered fun e => ?_)
  rw [← get?_eq_some_iff, ← get?_eq_some_iff, h]

def update (m newer : Properties) : Properties :=
  newer.entries.foldl (fun m e => m.insert e.1 e.2) m

lemma get?_foldl_insert (m : Properties) (entries : List (Text × Text)) (key : Text) :
    (entries.foldl (fun m e => m.insert e.1 e.2) m).get? key =
      ((ofEntries entries).get? key).or (m.get? key) := by
  induction entries using List.reverseRecOn with
  | nil =>
    have hempty : (ofEntries []).get? key = none := rfl
    rw [List.foldl_nil, hempty, Option.none_or]
  | append_singleton entries e ih =>
    rw [List.foldl_append, ofEntries_append_singleton, get?_insert]
    simp only [List.foldl_cons, List.foldl_nil, get?_insert, ih]
    split_ifs <;> simp

lemma get?_update (m newer : Properties) (key : Text) :
    (m.update newer).get? key = (newer.get? key).or (m.get? key) := by
  rw [update, get?_foldl_insert, ofEntries_entries]

lemma ofEntries_append (entries more : List (Text × Text)) :
    ofEntries (entries ++ more) = (ofEntries entries).update (ofEntries more) := by
  apply eq_of_get?_eq
  intro key
  have hsplit : ofEntries (entries ++ more) =
      more.foldl (fun m e => m.insert e.1 e.2) (ofEntries entries) := List.foldl_append
  rw [hsplit, get?_foldl_insert, get?_update]

def writtenSize (entries : List (Text × Text)) : Nat :=
  (entries.map fun e => (entryLine e).length).sum

lemma writtenSize_nil : writtenSize [] = 0 := rfl

@[simp] lemma writtenSize_cons (e : Text × Text) (rest : List (Text × Text)) :
    writtenSize (e :: rest) = (entryLine e).length + writtenSize rest := by
  simp [writtenSize]

lemma writtenSize_place_le (key value : Text) (entries : List (Text × Text)) :
    writtenSize (place key value entries) ≤
      writtenSize entries + (entryLine (key, value)).length := by
  induction entries with
  | nil => simp [place, writtenSize_nil]
  | cons f rest ih =>
    rw [place]
    split_ifs
    · simp only [writtenSize_cons]
      omega
    · simp only [writtenSize_cons]
      omega
    · simp only [writtenSize_cons]
      omega

lemma writtenSize_ofEntries_le (entries : List (Text × Text)) :
    writtenSize (ofEntries entries).entries ≤ writtenSize entries := by
  induction entries using List.reverseRecOn with
  | nil => exact Nat.le_refl 0
  | append_singleton entries e ih =>
    rw [ofEntries_append_singleton]
    calc writtenSize (place e.1 e.2 (ofEntries entries).entries)
        ≤ writtenSize (ofEntries entries).entries + (entryLine e).length :=
          writtenSize_place_le e.1 e.2 _
      _ ≤ writtenSize entries + (entryLine e).length := Nat.add_le_add_right ih _
      _ = writtenSize (entries ++ [e]) := by simp [writtenSize]

end Properties

end HostDiscovery
