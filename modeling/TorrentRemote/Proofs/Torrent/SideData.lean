import TorrentRemote.Proofs.Lookup
import TorrentRemote.Torrent.SideData
import Mathlib.Data.List.Basic

/-!
# Side data from its own entries

Entries in ascending order of their keys, set one after another, come to stand in that order.  So
side data is rebuilt by its own entries, and leaving out the zeros twice is leaving them out once.
Of entries with one key that are set one after another, the last counts, so side data that is set
over other side data keeps what the other has under further keys.

## Main definitions

* `SideData.override` : side data after the entries of other side data were set.

## Main results

* `SideData.ofList_entries` : side data is rebuilt by its own entries.
* `SideData.get?_foldl_insert` : what stands under a key after entries were set.
* `SideData.eq_of_get?_eq_some_iff` : side data is determined by what stands under its keys.
* `SideData.get?_override` : what stands under a key after side data was set over other side data.
-/

namespace TorrentRemote.SideData

theorem eq_of_entries_eq {a b : SideData} (h : a.entries = b.entries) : a = b := by
  cases a
  cases b
  cases h
  rfl

/-- An entry with a key above all others comes to stand at the end. -/
theorem insertEntry_eq_append {key : String} {value : Int64} {es : List (String × Int64)}
    (h : ∀ e ∈ es, e.1 < key) : insertEntry key value es = es ++ [(key, value)] := by
  induction es with
  | nil => rfl
  | cons e es ih =>
    have hlt : e.1 < key := h e List.mem_cons_self
    have hnlt : ¬ key < e.1 := String.lt_asymm hlt
    have hne : key ≠ e.1 := fun heq => String.lt_irrefl _ (heq ▸ hlt)
    rw [insertEntry, if_neg hnlt, if_neg hne, ih fun d hd => h d (List.mem_cons_of_mem _ hd),
      List.cons_append]

theorem entries_insert (data : SideData) (key : String) (value : Int64) :
    (data.insert key value).entries = insertEntry key value data.entries := rfl

/-- Entries that continue side data in ascending order are appended to it. -/
theorem entries_foldl_insert (es : List (String × Int64)) (data : SideData)
    (h : (data.entries ++ es).Pairwise fun a b => a.1 < b.1) :
    (es.foldl (fun data e => data.insert e.1 e.2) data).entries = data.entries ++ es := by
  induction es generalizing data with
  | nil => simp
  | cons e es ih =>
    have hbefore : ∀ d ∈ data.entries, d.1 < e.1 := fun d hd =>
      (List.pairwise_append.1 h).2.2 d hd e List.mem_cons_self
    have hinsert : (data.insert e.1 e.2).entries = data.entries ++ [e] := by
      rw [entries_insert, insertEntry_eq_append hbefore]
    rw [List.foldl_cons, ih, hinsert, List.append_assoc, List.singleton_append]
    rwa [hinsert, List.append_assoc, List.singleton_append]

/-- Side data is what its entries, set one after another, result in. -/
theorem ofList_entries (data : SideData) : ofList data.entries = data := by
  apply eq_of_entries_eq
  rw [ofList, entries_foldl_insert _ _ (by simpa [empty] using data.ascending)]
  rfl

theorem mem_entries_foldl_insert {es : List (String × Int64)} {data : SideData}
    {e : String × Int64}
    (h : e ∈ (es.foldl (fun data d => data.insert d.1 d.2) data).entries) :
    e ∈ data.entries ∨ e ∈ es := by
  induction es generalizing data with
  | nil => exact .inl h
  | cons d es ih =>
    rcases ih h with he | he
    · rw [entries_insert] at he
      rcases mem_insertEntry he with rfl | he
      · exact .inr List.mem_cons_self
      · exact .inl he
    · exact .inr (List.mem_cons_of_mem d he)

/-- Setting entries one after another makes no others. -/
theorem mem_of_mem_ofList {es : List (String × Int64)} {e : String × Int64}
    (h : e ∈ (ofList es).entries) : e ∈ es :=
  (mem_entries_foldl_insert h).resolve_left List.not_mem_nil

theorem entries_nonzero (data : SideData) :
    data.nonzero.entries = data.entries.filter fun e => e.2 != 0 := rfl

theorem mem_entries_nonzero {data : SideData} {e : String × Int64} :
    e ∈ data.nonzero.entries ↔ e ∈ data.entries ∧ e.2 ≠ 0 := by
  simp [entries_nonzero]

theorem nonzero_entries_eq_nil_iff {data : SideData} :
    data.nonzero.entries = [] ↔ ∀ e ∈ data.entries, e.2 = 0 := by
  simp [entries_nonzero, List.filter_eq_nil_iff]

theorem nonzero_eq_empty {data : SideData} (h : data.nonzero.entries = []) :
    data.nonzero = empty :=
  eq_of_entries_eq h

/-- Side data without zeros loses nothing when zeros are left out. -/
theorem nonzero_eq_self {data : SideData} (h : ∀ e ∈ data.entries, e.2 ≠ 0) :
    data.nonzero = data := by
  apply eq_of_entries_eq
  rw [entries_nonzero, List.filter_eq_self]
  simpa using h

/-! ### Looking up -/

theorem find?_insertEntry (key : String) (value : Int64) (es : List (String × Int64))
    (wanted : String) : (insertEntry key value es).find? (fun e => e.1 == wanted) =
      if key = wanted then some (key, value) else es.find? fun e => e.1 == wanted := by
  by_cases hwanted : key = wanted
  · rw [if_pos hwanted]
    induction es with
    | nil => simp [insertEntry, hwanted]
    | cons e es ih =>
      rw [insertEntry]
      split_ifs with hlt heq
      · simp [hwanted]
      · simp [hwanted]
      · have hne : e.1 ≠ wanted := fun h => heq (hwanted.trans h.symm)
        rw [List.find?_cons_of_neg (by simpa using hne), ih]
  · rw [if_neg hwanted]
    induction es with
    | nil => simp [insertEntry, hwanted]
    | cons e es ih =>
      rw [insertEntry]
      split_ifs with hlt heq
      · rw [List.find?_cons_of_neg (by simpa using hwanted)]
      · rw [List.find?_cons_of_neg (by simpa using hwanted),
          List.find?_cons_of_neg (by simpa [← heq] using hwanted)]
      · rw [List.find?_cons, List.find?_cons, ih]

theorem get?_insert (data : SideData) (key : String) (value : Int64) (wanted : String) :
    (data.insert key value).get? wanted =
      if key = wanted then some value else data.get? wanted := by
  rw [get?, entries_insert, find?_insertEntry, get?]
  split_ifs <;> rfl

/-- Of the entries that are set one after another, the last one with a key counts. -/
theorem get?_foldl_insert (es : List (String × Int64)) (data : SideData) (key : String) :
    (es.foldl (fun data e => data.insert e.1 e.2) data).get? key =
      ((es.reverse.find? fun e => e.1 == key).map Prod.snd).or (data.get? key) := by
  induction es generalizing data with
  | nil => rfl
  | cons e es ih =>
    rw [List.foldl_cons, ih, get?_insert, List.reverse_cons, List.find?_append, Option.map_or,
      Option.or_assoc]
    congr 1
    by_cases hkey : e.1 = key <;> simp [hkey]

theorem nodup_keys (data : SideData) : (data.entries.map Prod.fst).Nodup := by
  refine List.pairwise_map.2 (data.ascending.imp fun {a b} hlt heq => ?_)
  rw [heq] at hlt
  exact String.lt_irrefl b.1 hlt

theorem get?_eq_some_iff {data : SideData} {key : String} {value : Int64} :
    data.get? key = some value ↔ (key, value) ∈ data.entries := by
  simp only [get?, Option.map_eq_some_iff, Lookup.find?_eq_some_iff_of_nodup data.nodup_keys,
    Prod.exists]
  constructor
  · rintro ⟨k, v, ⟨hmem, rfl⟩, rfl⟩
    exact hmem
  · exact fun hmem => ⟨key, value, ⟨hmem, rfl⟩, rfl⟩

/-- Side data with the same numbers under all keys is the same. -/
theorem eq_of_get?_eq_some_iff {a b : SideData}
    (h : ∀ key value, a.get? key = some value ↔ b.get? key = some value) : a = b := by
  have hperm : a.entries.Perm b.entries := by
    refine (List.perm_ext_iff_of_nodup a.nodup_keys.of_map b.nodup_keys.of_map).2 fun e => ?_
    rw [← get?_eq_some_iff, ← get?_eq_some_iff]
    exact h e.1 e.2
  refine eq_of_entries_eq (hperm.eq_of_pairwise (fun d e _ _ hlt hgt => ?_) a.ascending b.ascending)
  exact absurd hgt (String.lt_asymm hlt)

/-- A key occurs once, so it does not matter from which end it is looked for. -/
theorem find?_reverse_entries (data : SideData) (key : String) :
    (data.entries.reverse.find? fun e => e.1 == key) =
      data.entries.find? fun e => e.1 == key := by
  have hreverse : (data.entries.reverse.map Prod.fst).Nodup := by
    rw [List.map_reverse, List.nodup_reverse]
    exact data.nodup_keys
  refine Option.ext fun e => ?_
  rw [Lookup.find?_eq_some_iff_of_nodup hreverse, Lookup.find?_eq_some_iff_of_nodup data.nodup_keys,
    List.mem_reverse]

/-! ### Side data over other side data -/

/-- Side data after the entries of other side data were set one after another. -/
def override (data new : SideData) : SideData :=
  new.entries.foldl (fun data e => data.insert e.1 e.2) data

theorem empty_override (data : SideData) : empty.override data = data := ofList_entries data

/-- Under each key stands the new number, or else the number that stood there before. -/
theorem get?_override (data new : SideData) (key : String) :
    (data.override new).get? key = (new.get? key).or (data.get? key) := by
  rw [override, get?_foldl_insert, find?_reverse_entries]
  rfl

theorem ofList_append (es ds : List (String × Int64)) :
    ofList (es ++ ds) = ds.foldl (fun data e => data.insert e.1 e.2) (ofList es) :=
  List.foldl_append

end TorrentRemote.SideData
