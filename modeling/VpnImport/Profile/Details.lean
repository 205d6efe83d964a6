namespace VpnImport

/-- The fields of a profile that belong to its protocol alone: texts by key, the
keys in ascending order of their code points and each key once. -/
structure Details where
  entries : List (String × String)
  sorted : entries.Pairwise fun a b => a.1 < b.1

namespace Details

def empty : Details := ⟨[], .nil⟩

/-- Puts an entry at the place of its key, over the entry that stands there. -/
def insertSorted (key value : String) : List (String × String) → List (String × String)
  | [] => [(key, value)]
  | e :: es =>
    if key < e.1 then (key, value) :: e :: es
    else if e.1 < key then e :: insertSorted key value es
    else (key, value) :: es

theorem mem_insertSorted {key value : String} {es : List (String × String)}
    {e : String × String} (h : e ∈ insertSorted key value es) : e.1 = key ∨ e ∈ es := by
  induction es with
  | nil => simp_all [insertSorted]
  | cons a es ih =>
    simp only [insertSorted] at h
    split at h
    · simp only [List.mem_cons] at h ⊢
      rcases h with rfl | h
      · exact .inl rfl
      · exact .inr h
    · split at h
      · simp only [List.mem_cons] at h ⊢
        rcases h with rfl | h
        · exact .inr (.inl rfl)
        · exact (ih h).imp id .inr
      · simp only [List.mem_cons] at h ⊢
        rcases h with rfl | h
        · exact .inl rfl
        · exact .inr (.inr h)

theorem sorted_insertSorted (key value : String) {es : List (String × String)}
    (h : es.Pairwise fun a b => a.1 < b.1) :
    (insertSorted key value es).Pairwise fun a b => a.1 < b.1 := by
  induction es with
  | nil => exact .cons (fun _ h => nomatch h) .nil
  | cons e es ih =>
    obtain ⟨he, hes⟩ := List.pairwise_cons.mp h
    simp only [insertSorted]
    split
    · rename_i hk
      refine .cons (fun a ha => ?_) h
      rcases List.mem_cons.mp ha with rfl | ha
      · exact hk
      · exact String.lt_trans hk (he a ha)
    · rename_i hk
      split
      · rename_i hk'
        refine .cons (fun a ha => ?_) (ih hes)
        rcases mem_insertSorted ha with hkey | ha
        · exact hkey ▸ hk'
        · exact he a ha
      · rename_i hk'
        have hkey : key = e.1 := String.le_antisymm hk' hk
        exact .cons (fun a ha => hkey ▸ he a ha) hes

/-- The details with one entry put in or replaced. -/
def insert (d : Details) (key value : String) : Details :=
  ⟨insertSorted key value d.entries, sorted_insertSorted key value d.sorted⟩

def get? (d : Details) (key : String) : Option String :=
  d.entries.lookup key

/-- Puts the entries in from first to last, so the last one of a key stays. -/
def ofList (es : List (String × String)) : Details :=
  es.foldl (fun d e => d.insert e.1 e.2) empty

@[ext] theorem ext {a b : Details} (h : a.entries = b.entries) : a = b := by
  cases a; cases b; cases h; rfl

instance : DecidableEq Details := fun a b =>
  if h : a.entries = b.entries then isTrue (ext h)
  else isFalse fun hab => h (hab ▸ rfl)

end Details
end VpnImport
