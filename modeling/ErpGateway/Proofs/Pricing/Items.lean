import ErpGateway.Pricing.Item
import ErpGateway.Pricing.Request
import ErpGateway.Proofs.Text.Order
import ErpGateway.Proofs.Text.Trim
import Mathlib.Data.List.Nodup

namespace ErpGateway.Pricing

section Trimmed

variable {texts texts' : List String} {s : String}

lemma distinctTrimmed_eq (texts : List String) :
    distinctTrimmed texts = Text.distinct ((texts.map Text.trimmed).filter fun s => !s.isEmpty) :=
  rfl

lemma mem_distinctTrimmed :
    s ∈ distinctTrimmed texts ↔ s ≠ "" ∧ ∃ text ∈ texts, Text.trimmed text = s := by
  rw [distinctTrimmed_eq, Text.mem_distinct, List.mem_filter, List.mem_map, and_comm]
  simp

lemma pairwise_idxOf_distinctTrimmed (texts : List String) :
    (distinctTrimmed texts).Pairwise fun a b =>
      (texts.map Text.trimmed).idxOf a < (texts.map Text.trimmed).idxOf b :=
  Text.pairwise_idxOf_distinct_filter _ _

lemma nodup_distinctTrimmed (texts : List String) : (distinctTrimmed texts).Nodup := by
  refine (pairwise_idxOf_distinctTrimmed texts).imp ?_
  rintro a b hlt rfl
  exact Nat.lt_irrefl _ hlt

lemma distinctTrimmed_perm
    (h : ∀ s, s ∈ distinctTrimmed texts ↔ s ∈ distinctTrimmed texts') :
    (distinctTrimmed texts).Perm (distinctTrimmed texts') :=
  (List.perm_ext_iff_of_nodup (nodup_distinctTrimmed texts) (nodup_distinctTrimmed texts')).mpr h

lemma distinctTrimmed_alone (h : s ∈ distinctTrimmed texts) : distinctTrimmed [s] = [s] := by
  obtain ⟨hblank, text, -, rfl⟩ := mem_distinctTrimmed.mp h
  rw [distinctTrimmed_eq, List.map_singleton, Text.trimmed_trimmed, List.filter_cons_of_pos]
  · rfl
  · simpa using hblank

end Trimmed

namespace Request

variable {request : Request} {sku : String}

def Names (request : Request) (sku : String) : Prop :=
  sku ≠ "" ∧ ∃ text ∈ request.skus, Text.trimmed text = sku

def alone (request : Request) (sku : String) : Request :=
  { request with skus := [sku] }

lemma mem_skusAsAsked : sku ∈ request.skusAsAsked ↔ request.Names sku :=
  mem_distinctTrimmed

lemma mem_skusAscending : sku ∈ request.skusAscending ↔ request.Names sku :=
  Text.mem_ascending.trans mem_distinctTrimmed

lemma skusAsAsked_alone (h : request.Names sku) : (request.alone sku).skusAsAsked = [sku] :=
  distinctTrimmed_alone (mem_skusAsAsked.mpr h)

lemma skusAscending_alone (h : request.Names sku) : (request.alone sku).skusAscending = [sku] := by
  have halone : distinctTrimmed (request.alone sku).skus = [sku] := skusAsAsked_alone h
  rw [skusAscending, halone, Text.ascending, List.mergeSort_singleton]

structure Respelled (r r' : Request) : Prop where
  items : ∀ sku, r.Names sku ↔ r'.Names sku
  warehouses : distinctTrimmed r.warehouses = distinctTrimmed r'.warehouses
  accountId : r.accountId = r'.accountId
  hints : r.priceListHints = r'.priceListHints
  asOf : r.asOf = r'.asOf

section Respelled

variable {r r' : Request}

lemma Respelled.perm_skusAsAsked (h : r.Respelled r') : r.skusAsAsked.Perm r'.skusAsAsked := by
  refine distinctTrimmed_perm fun sku => ?_
  exact mem_skusAsAsked.trans ((h.items sku).trans mem_skusAsAsked.symm)

lemma Respelled.skusAscending_eq (h : r.Respelled r') : r.skusAscending = r'.skusAscending :=
  Text.ascending_eq_of_perm h.perm_skusAsAsked

lemma Respelled.warehousesOr_eq (h : r.Respelled r') (defaults : List String) :
    r.warehousesOr defaults = r'.warehousesOr defaults := by
  rw [warehousesOr, warehousesOr, h.warehouses]

lemma Respelled.account_eq (h : r.Respelled r') : r.account = r'.account := by
  rw [account, account, h.accountId]

lemma Respelled.document_eq (h : r.Respelled r') : r.document = r'.document := by
  rw [document, document, h.hints]

lemma Respelled.asOfText_eq (h : r.Respelled r') (today : Calendar.Date) :
    r.asOfText today = r'.asOfText today := by
  rw [asOfText, asOfText, h.asOf]

end Respelled

end Request

namespace Item

variable (item : Item)

@[simp] lemma sku_putPrice (label : String) (price : Option Float) :
    (item.putPrice label price).sku = item.sku := by
  rw [putPrice]
  split <;> rfl

@[simp] lemma sku_putDetail (key : String) (value : Json) : (item.putDetail key value).sku = item.sku :=
  rfl

@[simp] lemma sku_putSome (key : String) (value : Option Json) :
    (item.putSome key value).sku = item.sku := by
  cases value <;> rfl

end Item

def itemIn? (items : List Item) (sku : String) : Option Item :=
  items.find? fun item => item.sku == sku

lemma sku_of_itemIn? {items : List Item} {sku : String} {item : Item}
    (h : itemIn? items sku = some item) : item.sku = sku := by
  rw [itemIn?] at h
  have hfound := List.find?_some h
  exact beq_iff_eq.mp hfound

lemma exists_itemIn? {items : List Item} {item : Item} (h : item ∈ items) :
    ∃ other, itemIn? items item.sku = some other := by
  rw [← Option.isSome_iff_exists, itemIn?, List.find?_isSome]
  exact ⟨item, h, beq_self_eq_true item.sku⟩

lemma itemIn?_map {f : String → Item} (hf : ∀ sku, (f sku).sku = sku) {skus : List String}
    {sku : String} (h : sku ∈ skus) : itemIn? (skus.map f) sku = some (f sku) := by
  obtain ⟨item, hitem⟩ := exists_itemIn? (List.mem_map_of_mem h)
  rw [hf] at hitem
  obtain ⟨other, -, rfl⟩ := List.mem_map.mp (List.mem_of_find?_eq_some hitem)
  have hsku := sku_of_itemIn? hitem
  rw [hf] at hsku
  rw [hitem, hsku]

lemma itemIn?_eq_some_iff {items : List Item} (h : (items.map Item.sku).Nodup) {sku : String}
    {item : Item} : itemIn? items sku = some item ↔ item ∈ items ∧ item.sku = sku := by
  constructor
  · intro hfind
    exact ⟨List.mem_of_find?_eq_some hfind, sku_of_itemIn? hfind⟩
  · rintro ⟨hmem, rfl⟩
    obtain ⟨other, hother⟩ := exists_itemIn? hmem
    rw [hother, List.inj_on_of_nodup_map h (List.mem_of_find?_eq_some hother) hmem
      (sku_of_itemIn? hother)]

lemma itemIn?_of_perm {items items' : List Item} (h : (items.map Item.sku).Nodup)
    (hperm : items.Perm items') (sku : String) : itemIn? items sku = itemIn? items' sku := by
  have h' := (hperm.map Item.sku).nodup_iff.mp h
  ext item
  rw [itemIn?_eq_some_iff h, itemIn?_eq_some_iff h', hperm.mem_iff]

end ErpGateway.Pricing
