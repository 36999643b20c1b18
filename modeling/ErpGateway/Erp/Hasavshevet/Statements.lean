import ErpGateway.Sql.Statement
import ErpGateway.Erp.Backend

namespace ErpGateway.Erp.Hasavshevet

open Sql

def parentAccountText : String := "
SELECT TOP 1 a.AccountKey, a.ParentAccount
FROM dbo.Accounts AS a WITH (NOLOCK)
WHERE a.AccountKey = @account"

def catalogText : String := "
SELECT
    i.ItemKey,
    CAST(i.Price AS float) AS ItemPrice,
    i.Coin,
    i.VatExampt,
    i.DiscountCode,
    pl.PriceListNumber,
    CAST(pl.Price AS float) AS ListPrice,
    pl.Coin AS ListCoin
FROM dbo.Items AS i WITH (NOLOCK)
OUTER APPLY (
    SELECT TOP 1 p.PriceListNumber, p.Price, p.Coin
    FROM dbo.PriceList AS p WITH (NOLOCK)
    WHERE p.ItemKey = i.ItemKey
      AND p.DatF < DATEADD(day, 1, CAST(@asOf AS date))
    ORDER BY p.DatF DESC
) AS pl
WHERE i.ItemKey IN (\x7bskus\x7d)"

def discountRulesText : String := "
SELECT d.DiscountCode, d.PriceListNumber, CAST(d.DiscountPrc AS float) AS DiscountPrc
FROM dbo.Discounts AS d WITH (NOLOCK)
WHERE d.AccountKey = @account
  AND d.DiscountCode IN (
      SELECT i.DiscountCode FROM dbo.Items AS i WITH (NOLOCK) WHERE i.ItemKey IN (\x7bskus\x7d)
  )
ORDER BY d.ID"

def listPricesText : String := "
SELECT x.ItemKey, x.PriceListNumber, x.Price
FROM (
    SELECT
        p.ItemKey,
        p.PriceListNumber,
        CAST(p.Price AS float) AS Price,
        ROW_NUMBER() OVER (
            PARTITION BY p.ItemKey, p.PriceListNumber
            ORDER BY p.DatF DESC
        ) AS rn
    FROM dbo.PriceList AS p WITH (NOLOCK)
    WHERE p.ItemKey IN (\x7bskus\x7d)
      AND p.PriceListNumber IN (\x7blists\x7d)
      AND p.DatF < DATEADD(day, 1, CAST(@asOf AS date))
) AS x
WHERE x.rn = 1"

def specialPricesText : String := "
SELECT
    s.ItemKey,
    s.AccountKey,
    CAST(s.Price AS float) AS Price,
    CAST(ISNULL(s.DiscountPrc, 0) AS float) AS DiscountPrc,
    s.Coin
FROM dbo.SpecialPrices AS s WITH (NOLOCK)
WHERE s.ItemKey IN (\x7bskus\x7d)
  AND s.AccountKey IN (@account, @parent)"

def lastPricesText : String := "
SELECT x.ItemKey, x.DocumentID, x.Price, x.ValueDate, x.LineId
FROM (
    SELECT
        sm.ItemKey,
        st.DocumentID,
        CAST(sm.Price AS float) AS Price,
        CONVERT(varchar(23), st.ValueDate, 126) AS ValueDate,
        sm.ID AS LineId,
        ROW_NUMBER() OVER (
            PARTITION BY sm.ItemKey, st.DocumentID
            ORDER BY st.ValueDate DESC, sm.ID DESC
        ) AS rn
    FROM dbo.Stock AS st WITH (NOLOCK)
    INNER JOIN dbo.StockMoves AS sm WITH (NOLOCK)
        ON sm.StockId = st.ID
    WHERE st.AccountKey = @account
      AND st.DocumentID IN (@invoiceDoc, @orderDoc)
      AND sm.ItemKey IN (\x7bskus\x7d)
      AND sm.Price IS NOT NULL
) AS x
WHERE x.rn = 1"

def stockText : String := "
;WITH Bal AS (
    SELECT v.ITEMKEY AS ItemKey, v.WAREHOUSE AS Warehouse, SUM(ISNULL(v.ITEMWARHBAL, 0)) AS OnHand
    FROM dbo.vBalItemWarehouse AS v WITH (NOLOCK)
    WHERE v.ITEMKEY IN (\x7bskus\x7d)
      AND v.WAREHOUSE IN (\x7bwarehouses\x7d)
    GROUP BY v.ITEMKEY, v.WAREHOUSE
),
OpenOrders AS (
    SELECT sm.ItemKey, st.WareHouse AS Warehouse, SUM(sm.SupplyQuantity) AS OpenOrders
    FROM dbo.Stock AS st WITH (NOLOCK)
    INNER JOIN dbo.StockMoves AS sm WITH (NOLOCK)
        ON sm.StockId = st.ID
    WHERE st.DocumentID = @orderDoc
      AND st.DocNumber NOT LIKE @excludedOrders
      AND st.Status = 1
      AND st.WareHouse IN (\x7bwarehouses\x7d)
      AND sm.ItemKey IN (\x7bskus\x7d)
      AND sm.SupplyQuantity <> 0
      AND sm.Status <> 2
    GROUP BY sm.ItemKey, st.WareHouse
)
SELECT
    COALESCE(b.ItemKey, o.ItemKey) AS ItemKey,
    COALESCE(b.Warehouse, o.Warehouse) AS Warehouse,
    CAST(ISNULL(b.OnHand, 0) AS float) AS OnHand,
    CAST(ISNULL(o.OpenOrders, 0) AS float) AS OpenOrders
FROM Bal AS b
FULL OUTER JOIN OpenOrders AS o
    ON o.ItemKey = b.ItemKey
   AND o.Warehouse = b.Warehouse"

def texts (values : List String) : List Scalar :=
  values.map .text

def parentAccount (account : String) : Statement :=
  ({ text := parentAccountText } : Statement).bind "account" (.text account)

def catalog (skus : List String) (asOf : String) : Statement :=
  (({ text := catalogText } : Statement).bind "asOf" (.text asOf)).bindList "skus" "sku"
    (texts skus)

def discountRules (skus : List String) (owner : String) : Statement :=
  (({ text := discountRulesText } : Statement).bind "account" (.text owner)).bindList "skus" "sku"
    (texts skus)

def listPrices (skus : List String) (lists : List Int) (asOf : String) : Statement :=
  ((({ text := listPricesText } : Statement).bind "asOf" (.text asOf)).bindList "skus" "sku"
    (texts skus)).bindList "lists" "pl" (lists.map .int)

def specialPrices (skus : List String) (account : String) (parent : Option String) : Statement :=
  ((({ text := specialPricesText } : Statement).bind "account" (.text account)).bind "parent"
    (.ofText? parent)).bindList "skus" "sku" (texts skus)

def lastPrices (settings : Settings) (skus : List String) (account : String) : Statement :=
  (((({ text := lastPricesText } : Statement).bind "account" (.text account)).bind "invoiceDoc"
    (.int settings.invoiceDocument)).bind "orderDoc"
    (.int settings.orderDocument)).bindList "skus" "sku" (texts skus)

def stock (settings : Settings) (skus warehouses : List String) : Statement :=
  (((({ text := stockText } : Statement).bind "orderDoc" (.int settings.orderDocument)).bind
    "excludedOrders" (.text (settings.excludedOrderPrefix ++ "%"))).bindList "skus" "sku"
    (texts skus)).bindList "warehouses" "wh" (texts warehouses)

end ErpGateway.Erp.Hasavshevet
