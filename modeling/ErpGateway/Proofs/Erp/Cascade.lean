import ErpGateway.Erp.Hasavshevet.Answer
import Mathlib.Tactic.Common

namespace ErpGateway.Erp.Hasavshevet

open Sql Pricing

variable (settings : Settings) (today : Calendar.Date) (request : Request)

def priced (parent : Option String) (states : List ItemState) : Dialogue (List ItemState) :=
  if request.account.isEmpty then pure states
  else pricedForAccount settings request.skusAsAsked (request.asOfText today) request.account parent
    states

def itemsOf (parent : Option String) (states : List ItemState) (rows : Table) : List Item :=
  (states.map Stage.clamp.apply).map fun s =>
    withRequest request.document request.account parent s.known
      (s.toItem (((netStock (rows.filterMap stockMovement?)).get? s.sku).getD []))

lemma answer_eq : answer settings today request =
    if request.skusAsAsked.isEmpty then pure [] else
      parentFor request.account >>= fun parent =>
      Dialogue.rows (catalog request.skusAsAsked (request.asOfText today)) >>= fun rows =>
      priced settings today request parent
        (request.skusAsAsked.map (ItemState.seed (rows.filterMap catalogEntry?))) >>= fun states =>
      Dialogue.rows (stock settings request.skusAsAsked
        (request.warehousesOr settings.defaultWarehouses)) >>= fun rows =>
      pure (itemsOf request parent states rows) := by
  unfold answer
  dsimp only
  split
  · rfl
  · refine bind_congr fun parent => bind_congr fun rows => ?_
    unfold priced
    split <;> rfl

end ErpGateway.Erp.Hasavshevet
