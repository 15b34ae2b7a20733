/-!
# Side data of a torrent

Whole numbers attached to a torrent, each under a short key.  The entries are kept in ascending
order of their keys, each key at most once, so two side data with the same entries are equal.
-/

namespace TorrentRemote

/-- Whole numbers by key, in ascending order of the keys. -/
structure SideData where
  entries : List (String × Int64)
  ascending : entries.Pairwise fun a b => a.1 < b.1
  deriving DecidableEq

namespace SideData

/-- No entries. -/
def empty : SideData := ⟨[], .nil⟩

instance : Inhabited SideData := ⟨empty⟩

/-- The entries with `key` set to `value`, in order. -/
def insertEntry (key : String) (value : Int64) : List (String × Int64) → List (String × Int64)
  | [] => [(key, value)]
  | e :: es =>
    if key < e.1 then (key, value) :: e :: es
    else if key = e.1 then (key, value) :: es
    else e :: insertEntry key value es

theorem mem_insertEntry {key : String} {value : Int64} {es : List (String × Int64)}
    {e : String × Int64} (h : e ∈ insertEntry key value es) : e = (key, value) ∨ e ∈ es := by
  induction es with
  | nil => simpa [insertEntry] using h
  | cons d ds ih =>
    simp only [insertEntry] at h
    split at h
    · simpa using h
    · split at h
      · simp only [List.mem_cons] at h ⊢
        exact h.imp_right .inr
      · simp only [List.mem_cons] at h ⊢
        rcases h with h | h
        · exact .inr (.inl h)
        · exact (ih h).imp_right .inr

theorem lt_of_not_lt_of_ne {a b : String} (hlt : ¬ a < b) (hne : a ≠ b) : b < a :=
  Std.lt_of_le_of_ne (Std.not_lt.1 hlt) (Ne.symm hne)

theorem ascending_insertEntry (key : String) (value : Int64) {es : List (String × Int64)}
    (h : es.Pairwise fun a b => a.1 < b.1) :
    (insertEntry key value es).Pairwise fun a b => a.1 < b.1 := by
  induction es with
  | nil => simp [insertEntry]
  | cons d ds ih =>
    simp only [List.pairwise_cons] at h
    simp only [insertEntry]
    split
    · rename_i hlt
      refine .cons (fun e he => ?_) (.cons h.1 h.2)
      rcases List.mem_cons.1 he with rfl | he
      · exact hlt
      · exact Std.lt_trans hlt (h.1 e he)
    · rename_i hge
      split
      · rename_i heq
        exact .cons (fun e he => heq ▸ h.1 e he) h.2
      · rename_i hne
        refine .cons (fun e he => ?_) (ih h.2)
        rcases mem_insertEntry he with rfl | he
        · exact lt_of_not_lt_of_ne hge hne
        · exact h.1 e he

/-- The side data with `key` set to `value`. -/
def insert (data : SideData) (key : String) (value : Int64) : SideData :=
  ⟨insertEntry key value data.entries, ascending_insertEntry key value data.ascending⟩

/-- The side data that results from setting each entry in turn. -/
def ofList (es : List (String × Int64)) : SideData :=
  es.foldl (fun data e => data.insert e.1 e.2) empty

/-- The number under a key, if the key is present. -/
def get? (data : SideData) (key : String) : Option Int64 :=
  (data.entries.find? fun e => e.1 == key).map Prod.snd

/-- The entries whose number is not zero. -/
def nonzero (data : SideData) : SideData :=
  ⟨data.entries.filter fun e => e.2 != 0, data.ascending.filter _⟩

end SideData

end TorrentRemote
