import ErpGateway.Sql.Statement

/-!
The one batch that is asked of SAP; it answers with seven result sets. Items and warehouses stand in
the text as marks, which give way to one parameter for each.
-/
namespace ErpGateway.Erp.Sap

open Sql

/-- The customer, base prices, special prices, discount rules, promotions, bills of kits, and stock,
in this order. -/
def batchText : String := "
SET NOCOUNT ON;

DECLARE @AsOf date = CAST(@asOfDate AS date);
DECLARE @ListNum int, @GroupCode int, @DiscRel nvarchar(1), @Found int = 0;

SELECT TOP 1
    @ListNum = C.ListNum,
    @GroupCode = C.GroupCode,
    @DiscRel = C.DiscRel,
    @Found = 1
FROM OCRD AS C WITH (NOLOCK)
WHERE C.CardCode = @cardCode;

SELECT
    @cardCode AS CardCode,
    @Found AS Found,
    @ListNum AS ListNum,
    @GroupCode AS GroupCode,
    ISNULL(NULLIF(@DiscRel, ''), 'H') AS DiscRel;

SELECT
    I.ItemCode,
    I.FirmCode,
    I.ItmsGrpCod,
    CAST(P.Price AS DECIMAL(19,4)) AS PriceListPrice,
    P.Currency
FROM OITM AS I WITH (NOLOCK)
INNER JOIN ITM1 AS P WITH (NOLOCK)
    ON P.ItemCode = I.ItemCode
   AND P.PriceList = @ListNum
WHERE I.ItemCode IN (\x7bskus\x7d);

SELECT
    S.ItemCode,
    CAST(S.Price AS DECIMAL(19,4)) AS Price,
    CAST(S.Discount AS DECIMAL(19,4)) AS Discount
FROM OSPP AS S WITH (NOLOCK)
WHERE S.CardCode = @cardCode
  AND S.ItemCode IN (\x7bskus\x7d)
  AND S.Valid = 'Y'
  AND (S.ValidFrom IS NULL OR S.ValidFrom <= @AsOf)
  AND (S.ValidTo IS NULL OR S.ValidTo >= @AsOf)
  AND (S.ListNum IS NULL OR S.ListNum = @ListNum)
ORDER BY S.ItemCode, CASE WHEN S.ListNum IS NULL THEN 1 ELSE 0 END;

SELECT
    I.ItemCode,
    E.Type AS RuleType,
    E1.ObjType,
    CAST(E1.Discount AS DECIMAL(19,4)) AS DiscountPct
FROM OITM AS I WITH (NOLOCK)
INNER JOIN EDG1 AS E1 WITH (NOLOCK)
    ON (E1.ObjType = '4' AND E1.ObjKey = I.ItemCode)
    OR (E1.ObjType = '43' AND TRY_CAST(E1.ObjKey AS INT) = I.FirmCode)
    OR (E1.ObjType = '52' AND TRY_CAST(E1.ObjKey AS INT) = I.ItmsGrpCod)
INNER JOIN OEDG AS E WITH (NOLOCK)
    ON E.AbsEntry = E1.AbsEntry
WHERE I.ItemCode IN (\x7bskus\x7d)
  AND (
        (E.Type = 'S' AND E.ObjCode = @cardCode)
     OR (E.Type = 'C' AND E.ObjCode = CONVERT(NVARCHAR(20), @GroupCode))
     OR (E.ObjType = '-1' AND E.ObjCode = '0')
  )
  AND (
        E.ValidFor = 'N'
     OR (
            E.ValidFor = 'Y'
        AND (E.ValidForm IS NULL OR E.ValidForm <= @AsOf)
        AND (E.ValidTo IS NULL OR E.ValidTo >= @AsOf)
     )
  );

SELECT
    E1.ObjKey AS ItemCode,
    CAST(MAX(E1.Discount) AS DECIMAL(19,4)) AS PromoDiscount
FROM OEDG AS E WITH (NOLOCK)
INNER JOIN EDG1 AS E1 WITH (NOLOCK)
    ON E1.AbsEntry = E.AbsEntry
   AND E1.ObjType = '4'
WHERE E.Type = 'A'
  AND E1.ObjKey IN (\x7bskus\x7d)
  AND (
        E.ValidFor = 'N'
     OR (
            E.ValidFor = 'Y'
        AND (E.ValidForm IS NULL OR E.ValidForm <= @AsOf)
        AND (E.ValidTo IS NULL OR E.ValidTo >= @AsOf)
     )
  )
GROUP BY E1.ObjKey;

SELECT H.Code AS Parent, L.Code AS Component
FROM OITT AS H WITH (NOLOCK)
LEFT JOIN ITT1 AS L WITH (NOLOCK)
    ON L.Father = H.Code
WHERE H.TreeType = 'S'
  AND H.Code IN (\x7bskus\x7d)
ORDER BY H.Code, L.ChildNum;

SELECT
    W.ItemCode,
    W.WhsCode,
    CAST(W.OnHand AS DECIMAL(19,4)) AS OnHand,
    CAST(W.OnOrder AS DECIMAL(19,4)) AS OnOrder,
    CAST(W.IsCommited AS DECIMAL(19,4)) AS IsCommited
FROM OITW AS W WITH (NOLOCK)
WHERE W.WhsCode IN (\x7bwarehouses\x7d)
  AND (
        W.ItemCode IN (\x7bskus\x7d)
     OR W.ItemCode IN (
            SELECT L.Code
            FROM ITT1 AS L WITH (NOLOCK)
            INNER JOIN OITT AS H WITH (NOLOCK)
                ON H.Code = L.Father
               AND H.TreeType = 'S'
            WHERE H.Code IN (\x7bskus\x7d)
        )
  );"

def batch (customer asOf : String) (skus warehouses : List String) : Statement :=
  (((({ text := batchText } : Statement).bind "cardCode" (.text customer)).bind "asOfDate"
    (.text asOf)).bindList "skus" "sku" (skus.map .text)).bindList "warehouses" "wh"
    (warehouses.map .text)

end ErpGateway.Erp.Sap
