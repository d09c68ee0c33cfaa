import Mathlib.Data.List.Nodup
import Mathlib.Data.Int.Notation
import Mathlib.Data.Nat.Notation

/-!
Values under keys that are written one after another: an entry replaces what is under its
key, and a key that was not there may get the number of those there were as its value.
-/

namespace VantageNet.Interaction

section writing

variable {κ ν : Type} {kept : List κ} {done : List (κ × ν)} {L L' : κ → ν → Prop} {e : κ × ν}

/-- `L'` has the entry, and otherwise what `L` has under other keys. -/
def Puts (L L' : κ → ν → Prop) (e : κ × ν) : Prop :=
  ∀ key v, L' key v ↔ key = e.1 ∧ v = e.2 ∨ key ≠ e.1 ∧ L key v

/-- What `kept` had, and the entries of `done` over it. -/
structure Written (kept : List κ) (done : List (κ × ν)) (L : κ → ν → Prop) : Prop where
  keys : ∀ key, (∃ v, L key v) ↔ key ∈ kept ∨ key ∈ done.map Prod.fst
  value : ∀ key v, L key v → key ∈ done.map Prod.fst → (key, v) ∈ done

theorem Written.nil (h : ∀ key, (∃ v, L key v) ↔ key ∈ kept) : Written kept [] L :=
  ⟨fun key => by simp [h key], by simp⟩

theorem Puts.keys (h : Puts L L' e) (key : κ) : (∃ v, L' key v) ↔ key = e.1 ∨ ∃ v, L key v := by
  constructor
  · rintro ⟨v, hv⟩
    rcases (h key v).mp hv with ⟨hkey, -⟩ | ⟨-, hold⟩
    · exact .inl hkey
    · exact .inr ⟨v, hold⟩
  · by_cases hkey : key = e.1
    · exact fun _ => ⟨e.2, (h key e.2).mpr (.inl ⟨hkey, rfl⟩)⟩
    · rintro (heq | ⟨v, hv⟩)
      · exact absurd heq hkey
      · exact ⟨v, (h key v).mpr (.inr ⟨hkey, hv⟩)⟩

/-- Nothing changes by an entry that is there already. -/
theorem Puts.eq_of_same (h : Puts L L' e) (hsame : ∀ v, L e.1 v ↔ v = e.2) : L' = L := by
  funext key v
  rw [eq_iff_iff, h key v]
  by_cases hkey : key = e.1
  · simp [hkey, hsame]
  · simp [hkey]

theorem Written.put (h : Written kept done L) (hput : Puts L L' e) : Written kept (done ++ [e]) L' := by
  constructor
  · intro key
    rw [hput.keys, h.keys, List.map_append, List.mem_append, List.map_singleton, List.mem_singleton]
    tauto
  · intro key v hv hkey
    rcases (hput key v).mp hv with ⟨rfl, rfl⟩ | ⟨hne, hold⟩
    · simp
    · rw [List.map_append, List.mem_append, List.map_singleton, List.mem_singleton] at hkey
      exact List.mem_append_left _ (h.value key v hold (hkey.resolve_right hne))

/-- No two entries under one key with different values. -/
def Agree (entries : List (κ × ν)) : Prop := ∀ a ∈ entries, ∀ b ∈ entries, a.1 = b.1 → a.2 = b.2

theorem Written.exact_iff (h : Written kept done L) :
    (∀ key v, L key v → ∀ e ∈ done, e.1 = key → e.2 = v) ↔ Agree done := by
  constructor
  · intro hexact a ha b hb heq
    obtain ⟨v, hv⟩ := (h.keys a.1).mpr (.inr (List.mem_map_of_mem ha))
    rw [hexact a.1 v hv a ha rfl, hexact a.1 v hv b hb heq.symm]
  · rintro hagree key v hv e he rfl
    exact hagree e he (e.1, v) (h.value e.1 v hv (List.mem_map_of_mem he)) rfl

end writing

section counting

variable {κ : Type} [DecidableEq κ]

def enter (taken : List κ) (key : κ) : List κ := if key ∈ taken then taken else taken ++ [key]

/-- The keys that are entered, each with the number of those before it. -/
def entered (taken : List κ) : List κ → List (κ × ℤ)
  | [] => []
  | key :: rest => (if key ∈ taken then [] else [(key, (taken.length : ℤ))]) ++ entered (enter taken key) rest

variable {taken base keys : List κ} {key : κ} {n : ℤ}

theorem mem_enter {other : κ} : other ∈ enter taken key ↔ other ∈ taken ∨ other = key := by
  unfold enter
  split_ifs with h
  · exact ⟨.inl, fun hor => hor.elim id (fun heq => heq ▸ h)⟩
  · simp

theorem nodup_enter (h : taken.Nodup) : (enter taken key).Nodup := by
  unfold enter
  split_ifs with hkey
  · exact h
  · exact List.nodup_append.mpr ⟨h, List.nodup_singleton key, fun a ha b hb heq =>
      hkey (List.mem_singleton.mp hb ▸ heq ▸ ha)⟩

theorem nodup_foldl_enter (h : taken.Nodup) : (keys.foldl enter taken).Nodup := by
  induction keys generalizing taken with
  | nil => exact h
  | cons key rest ih => exact ih (nodup_enter h)

theorem mem_foldl_enter : key ∈ keys.foldl enter taken ↔ key ∈ taken ∨ key ∈ keys := by
  induction keys generalizing taken with
  | nil => simp
  | cons first rest ih => rw [List.foldl_cons, ih, mem_enter, List.mem_cons, or_assoc]

theorem entered_append {keys' : List κ} :
    entered taken (keys ++ keys') = entered taken keys ++ entered (keys.foldl enter taken) keys' := by
  induction keys generalizing taken with
  | nil => rfl
  | cons key rest ih => rw [List.cons_append, entered, entered, ih, List.foldl_cons, List.append_assoc]

theorem not_mem_of_entered (h : (key, n) ∈ entered taken keys) : key ∉ taken ∧ key ∈ keys := by
  induction keys generalizing taken with
  | nil => cases h
  | cons first rest ih =>
    rcases List.mem_append.mp h with h | h
    · split_ifs at h with hfirst
      · cases h
      · cases List.mem_singleton.mp h
        exact ⟨hfirst, List.mem_cons_self⟩
    · obtain ⟨hnot, hmem⟩ := ih h
      exact ⟨fun hkey => hnot (mem_enter.mpr (.inl hkey)), List.mem_cons_of_mem _ hmem⟩

theorem entered_unique {n m : ℤ} (hn : (key, n) ∈ entered taken keys) (hm : (key, m) ∈ entered taken keys) : n = m := by
  induction keys generalizing taken with
  | nil => cases hn
  | cons first rest ih =>
    have hrest {m : ℤ} (h : (key, m) ∈ entered (enter taken first) rest) : key ≠ first :=
      fun heq => (not_mem_of_entered h).1 (mem_enter.mpr (.inr heq))
    rw [entered, List.mem_append] at hn hm
    split_ifs at hn hm with hfirst
    · exact ih (hn.resolve_left List.not_mem_nil) (hm.resolve_left List.not_mem_nil)
    · rcases hn with hn | hn <;> rcases hm with hm | hm
      · cases List.mem_singleton.mp hn
        cases List.mem_singleton.mp hm
        rfl
      · cases List.mem_singleton.mp hn
        exact absurd rfl (hrest hm)
      · cases List.mem_singleton.mp hm
        exact absurd rfl (hrest hn)
      · exact ih hn hm

/-- Keys that are there already do not matter to what is entered. -/
theorem entered_filter (hbase : base ⊆ taken) : entered taken (keys.filter (fun k => k ∉ base)) = entered taken keys := by
  induction keys generalizing taken with
  | nil => rfl
  | cons first rest ih =>
    by_cases hfirst : first ∈ base
    · rw [List.filter_cons_of_neg (by simpa using hfirst), entered, if_pos (hbase hfirst), enter, if_pos (hbase hfirst),
        List.nil_append, ih hbase]
    · rw [List.filter_cons_of_pos (by simpa using hfirst), entered, entered,
        ih (fun k hk => mem_enter.mpr (.inl (hbase hk)))]

/-- What `kept` had with the entries of `done` over it, and the other keys of `done` in the order they came. -/
structure Counted (kept : List κ) (done : List (κ × ℤ)) (L : κ → ℤ → Prop) : Prop where
  keys : ∀ key, (∃ v, L key v) ↔ key ∈ kept ∨ key ∈ done.map Prod.fst
  value : ∀ key v, L key v → key ∈ kept → key ∈ done.map Prod.fst → (key, v) ∈ done
  number : ∀ key v, L key v → key ∉ kept → (key, v) ∈ entered kept (done.map Prod.fst)

namespace Counted

variable {kept : List κ} {done : List (κ × ℤ)} {L L' : κ → ℤ → Prop} {e : κ × ℤ}

theorem nil (h : ∀ key, (∃ v, L key v) ↔ key ∈ kept) : Counted kept [] L :=
  ⟨fun key => by simp [h key], by simp, fun key v hv hkey => absurd ((h key).mp ⟨v, hv⟩) hkey⟩

theorem mem_keys (h : Counted kept done L) : (∃ v, L key v) ↔ key ∈ (done.map Prod.fst).foldl enter kept := by
  rw [h.keys, mem_foldl_enter]

theorem replace (h : Counted kept done L) (hkept : e.1 ∈ kept) (hput : Puts L L' e) : Counted kept (done ++ [e]) L' := by
  constructor
  · intro key
    rw [hput.keys, h.keys, List.map_append, List.mem_append, List.map_singleton, List.mem_singleton]
    tauto
  · intro key v hv hkey hdone
    rcases (hput key v).mp hv with ⟨rfl, rfl⟩ | ⟨hne, hold⟩
    · simp
    · rw [List.map_append, List.mem_append, List.map_singleton, List.mem_singleton] at hdone
      exact List.mem_append_left _ (h.value key v hold hkey (hdone.resolve_right hne))
  · intro key v hv hkey
    rw [List.map_append, entered_append]
    rcases (hput key v).mp hv with ⟨rfl, -⟩ | ⟨-, hold⟩
    · exact absurd hkept hkey
    · exact List.mem_append_left _ (h.number key v hold hkey)

theorem keep (h : Counted kept done L) (hkept : e.1 ∉ kept) (hdone : e.1 ∈ done.map Prod.fst) :
    Counted kept (done ++ [e]) L := by
  constructor
  · intro key
    rw [h.keys, List.map_append, List.mem_append, List.map_singleton, List.mem_singleton]
    constructor
    · rintro (hkey | hkey)
      · exact .inl hkey
      · exact .inr (.inl hkey)
    · rintro (hkey | hkey | rfl)
      · exact .inl hkey
      · exact .inr hkey
      · exact .inr hdone
  · intro key v hv hkey hmem
    rw [List.map_append, List.mem_append, List.map_singleton, List.mem_singleton] at hmem
    rcases hmem with hmem | rfl
    · exact List.mem_append_left _ (h.value key v hv hkey hmem)
    · exact absurd hkey hkept
  · intro key v hv hkey
    rw [List.map_append, entered_append]
    exact List.mem_append_left _ (h.number key v hv hkey)

theorem add (h : Counted kept done L) {n : ℕ} (hkept : e.1 ∉ kept) (hdone : e.1 ∉ done.map Prod.fst)
    (hn : n = ((done.map Prod.fst).foldl enter kept).length) (hput : Puts L L' (e.1, (n : ℤ))) :
    Counted kept (done ++ [e]) L' := by
  have hnew : e.1 ∉ (done.map Prod.fst).foldl enter kept := fun hmem => (mem_foldl_enter.mp hmem).elim hkept hdone
  constructor
  · intro key
    rw [hput.keys, h.keys, List.map_append, List.mem_append, List.map_singleton, List.mem_singleton]
    tauto
  · intro key v hv hkey hmem
    rcases (hput key v).mp hv with ⟨rfl, -⟩ | ⟨hne, hold⟩
    · exact absurd hkey hkept
    · rw [List.map_append, List.mem_append, List.map_singleton, List.mem_singleton] at hmem
      exact List.mem_append_left _ (h.value key v hold hkey (hmem.resolve_right hne))
  · intro key v hv hkey
    rw [List.map_append, entered_append]
    rcases (hput key v).mp hv with ⟨rfl, rfl⟩ | ⟨hne, hold⟩
    · apply List.mem_append_right
      rw [List.map_singleton, entered, if_neg hnew, hn]
      simp
    · exact List.mem_append_left _ (h.number key v hold hkey)

theorem congr {done' : List (κ × ℤ)} (h : Counted kept done L) (hmem : ∀ e, e ∈ done ↔ e ∈ done')
    (hentered : entered kept (done.map Prod.fst) = entered kept (done'.map Prod.fst)) : Counted kept done' L := by
  have hkeys (key : κ) : key ∈ done.map Prod.fst ↔ key ∈ done'.map Prod.fst := by
    simp only [List.mem_map, hmem]
  constructor
  · intro key
    rw [h.keys, hkeys]
  · intro key v hv hkey hdone
    exact (hmem (key, v)).mp (h.value key v hv hkey ((hkeys key).mpr hdone))
  · intro key v hv hkey
    rw [← hentered]
    exact h.number key v hv hkey

theorem exact_iff (h : Counted kept done L) : (∀ key v, L key v → ∀ e ∈ done, e.1 = key → e.2 = v) ↔
    Agree done ∧ ∀ e ∈ done, ∀ n, (e.1, n) ∈ entered kept (done.map Prod.fst) → e.2 = n := by
  constructor
  · intro hexact
    refine ⟨fun a ha b hb heq => ?_, fun e he n hn => ?_⟩
    · obtain ⟨v, hv⟩ := (h.keys a.1).mpr (.inr (List.mem_map_of_mem ha))
      rw [hexact a.1 v hv a ha rfl, hexact a.1 v hv b hb heq.symm]
    · obtain ⟨v, hv⟩ := (h.keys e.1).mpr (.inr (List.mem_map_of_mem he))
      rw [hexact e.1 v hv e he rfl]
      exact entered_unique (h.number e.1 v hv (not_mem_of_entered hn).1) hn
  · rintro ⟨hagree, hnumber⟩ key v hv e he rfl
    by_cases hkept : e.1 ∈ kept
    · exact hagree e he (e.1, v) (h.value e.1 v hv hkept (List.mem_map_of_mem he)) rfl
    · exact hnumber e he v (h.number e.1 v hv hkept)

end Counted

end counting

end VantageNet.Interaction
