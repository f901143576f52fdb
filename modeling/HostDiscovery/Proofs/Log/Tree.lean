import HostDiscovery.Log.Tree
import Mathlib.Tactic.Lemma

/-! The loggers that hang below the root logger. Every one that is asked for by a name does,
whatever other loggers are known, unless that name begins with a point. -/
namespace HostDiscovery.LoggerName

def reversedRoot : Text := rootLogger.toList.reverse

def reversedChild (s : Text) : Text := s ++ '.' :: reversedRoot

variable {known : List String} {s : Text}

lemma getLast?_of_cons {c : Char} (h : (c :: s).getLast? ≠ some '.') : s.getLast? ≠ some '.' := by
  cases s with
  | nil => simp
  | cons d rest => rwa [List.getLast?_cons_cons] at h

lemma reversedAncestors_cons_of_ne {c : Char} (hc : c ≠ '.') (s : Text) :
    reversedAncestors (c :: s) = reversedAncestors s := by
  rw [reversedAncestors]
  · exact fun h => absurd h hc
  · exact fun _ _ h => absurd h hc

/-- The root, or a name below it that is shorter than a bound. -/
def IsAbove (bound : Nat) (a : Text) : Prop :=
  a = reversedRoot ∨ ∃ t, a = reversedChild t ∧ t.getLast? ≠ some '.' ∧ t.length < bound

lemma IsAbove.mono {m n : Nat} {a : Text} (h : IsAbove m a) (hmn : m ≤ n) : IsAbove n a :=
  h.imp_right fun ⟨t, ha, ht, hlen⟩ => ⟨t, ha, ht, Nat.lt_of_lt_of_le hlen hmn⟩

lemma reversedAncestors_child (h : s.getLast? ≠ some '.') :
    reversedRoot ∈ reversedAncestors (reversedChild s) ∧
      ∀ a ∈ reversedAncestors (reversedChild s), IsAbove s.length a := by
  induction s using reversedAncestors.induct with
  | case1 =>
    have hroot : reversedAncestors (reversedChild []) = [reversedRoot] := by decide
    simp [hroot, IsAbove]
  | case2 => simp at h
  | case3 c rest ih =>
    have hancestors : reversedAncestors (reversedChild ('.' :: c :: rest)) =
        reversedChild (c :: rest) :: reversedAncestors (reversedChild rest) := rfl
    have hlast := getLast?_of_cons h
    obtain ⟨hroot, habove⟩ := ih (getLast?_of_cons hlast)
    rw [hancestors]
    refine ⟨List.mem_cons_of_mem _ hroot, fun a ha => ?_⟩
    rcases List.mem_cons.mp ha with rfl | ha
    · exact .inr ⟨_, rfl, hlast, Nat.lt_succ_self _⟩
    · exact (habove a ha).mono (Nat.le_add_right _ 2)
  | case4 c rest hpoint hpair ih =>
    have hc : c ≠ '.' := by
      rintro rfl
      cases rest with
      | nil => exact hpoint rfl rfl
      | cons d rest => exact hpair d rest rfl rfl
    have hancestors : reversedAncestors (reversedChild (c :: rest)) =
        reversedAncestors (reversedChild rest) := reversedAncestors_cons_of_ne hc _
    obtain ⟨hroot, habove⟩ := ih (getLast?_of_cons h)
    rw [hancestors]
    exact ⟨hroot, fun a ha => (habove a ha).mono (Nat.le_succ _)⟩

lemma descendsWithin_rootLogger (fuel : Nat) : descendsWithin known fuel rootLogger = true := by
  cases fuel <;> simp [descendsWithin]

lemma descendsWithin_child (hknown : rootLogger ∈ known) {fuel : Nat}
    (h : s.getLast? ≠ some '.') (hfuel : s.length < fuel) :
    descendsWithin known fuel (String.ofList (reversedChild s).reverse) = true := by
  induction fuel generalizing s with
  | zero => omega
  | succ fuel ih =>
    obtain ⟨hroot, habove⟩ := reversedAncestors_child h
    have hancestors : ancestors (String.ofList (reversedChild s).reverse) =
        (reversedAncestors (reversedChild s)).map fun t => String.ofList t.reverse := by
      simp [ancestors]
    obtain ⟨p, hp⟩ : ∃ p, parent? known (String.ofList (reversedChild s).reverse) = some p := by
      rw [parent?, ← Option.isSome_iff_exists, List.find?_isSome, hancestors]
      refine ⟨rootLogger, List.mem_map.mpr ⟨reversedRoot, hroot, ?_⟩, by simpa using hknown⟩
      simp [reversedRoot]
    have hmem := List.mem_of_find?_eq_some hp
    rw [hancestors] at hmem
    obtain ⟨t, ht, rfl⟩ := List.mem_map.mp hmem
    rw [descendsWithin, hp, Option.any_some, Bool.or_eq_true]
    right
    rcases habove t ht with rfl | ⟨t, rfl, hlast, hlen⟩
    · rw [reversedRoot, List.reverse_reverse, String.ofList_toList]
      exact descendsWithin_rootLogger fuel
    · exact ih hlast (by omega)

/-- A logger with a name of its own hangs below the root, unless that name begins with a point. -/
theorem descends_childLogger (hknown : rootLogger ∈ known) {name : Option String}
    (h : ∀ s, name = some s → s.toList.head? ≠ some '.') :
    descends known (childLogger name) = true := by
  match name with
  | none => exact descendsWithin_rootLogger _
  | some s =>
    by_cases hs : s.isEmpty
    · rw [childLogger, if_pos hs]
      exact descendsWithin_rootLogger _
    · have hname : childLogger (some s) =
          String.ofList (reversedChild s.toList.reverse).reverse := by
        simp [childLogger, hs, reversedChild, reversedRoot, String.ext_iff]
      rw [descends, hname]
      refine descendsWithin_child hknown ?_ ?_
      · rw [List.getLast?_reverse]
        exact h s rfl
      · simp only [String.length_ofList, List.length_reverse, reversedChild, List.length_append,
          List.length_cons]
        omega

end HostDiscovery.LoggerName
