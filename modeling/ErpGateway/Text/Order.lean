namespace ErpGateway.Text

def ascending (texts : List String) : List String :=
  texts.mergeSort fun a b => decide (a ≤ b)

def distinct (texts : List String) : List String :=
  texts.eraseDups

theorem mem_ascending {a : String} {texts : List String} : a ∈ ascending texts ↔ a ∈ texts := by
  simp [ascending, List.mem_mergeSort]

end ErpGateway.Text
