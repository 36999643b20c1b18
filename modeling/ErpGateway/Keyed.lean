namespace ErpGateway

abbrev Keyed (κ α : Type) := List (κ × α)

namespace Keyed

variable {κ α : Type} [DecidableEq κ]

def get? (key : κ) : Keyed κ α → Option α
  | [] => none
  | (k, a) :: rest => if k = key then some a else get? key rest

def put (key : κ) (value : α) : Keyed κ α → Keyed κ α
  | [] => [(key, value)]
  | (k, a) :: rest => if k = key then (k, value) :: rest else (k, a) :: put key value rest

def modify (key : κ) (initial : α) (f : α → α) (entries : Keyed κ α) : Keyed κ α :=
  put key (f ((get? key entries).getD initial)) entries

def ofList (entries : List (κ × α)) : Keyed κ α :=
  entries.foldl (fun acc e => put e.1 e.2 acc) []

theorem get?_put (key other : κ) (value : α) (entries : Keyed κ α) :
    get? other (put key value entries) = if other = key then some value else get? other entries := by
  induction entries with
  | nil => by_cases h : key = other <;> simp [put, get?, h, eq_comm]
  | cons e rest ih =>
    obtain ⟨k, a⟩ := e
    by_cases hk : k = key
    · subst hk
      by_cases ho : k = other
      · simp [put, get?, ho]
      · have ho' : other ≠ k := fun h => ho h.symm
        simp [put, get?, ho, ho']
    · by_cases ho : k = other
      · subst ho
        simp [put, get?, hk]
      · simp [put, get?, hk, ho, ih]

theorem keys_put (key : κ) (value : α) (entries : Keyed κ α) :
    (put key value entries).map Prod.fst =
      if key ∈ entries.map Prod.fst then entries.map Prod.fst
      else entries.map Prod.fst ++ [key] := by
  induction entries with
  | nil => simp [put]
  | cons e rest ih =>
    obtain ⟨k, a⟩ := e
    by_cases hk : k = key
    · simp [put, hk]
    · have hk' : key ≠ k := fun h => hk h.symm
      by_cases hm : key ∈ rest.map Prod.fst <;> simp_all [put]

end Keyed

def Keyed.sorted {α : Type} (entries : Keyed String α) : Keyed String α :=
  entries.mergeSort fun a b => decide (a.1 ≤ b.1)

end ErpGateway
