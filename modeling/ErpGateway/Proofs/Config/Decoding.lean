import ErpGateway.Proofs.Config.Layers

namespace ErpGateway.Config

namespace Value

mutual

def bare : Value → Value
  | plain _ p => plain none p
  | array _ items => array none (bareItems items)
  | table _ members => table none (bareMembers members)

def bareItems : List Value → List Value
  | [] => []
  | v :: rest => bare v :: bareItems rest

def bareMembers : Table → Table
  | [] => []
  | (key, v) :: rest => (key, bare v) :: bareMembers rest

end

lemma bareItems_eq (items : List Value) : bareItems items = items.map bare := by
  induction items with
  | nil => rfl
  | cons v items ih => exact congrArg (v.bare :: ·) ih

lemma cases_of_bare_eq {v v' : Value} (h : v.bare = v'.bare) :
    (∃ o o' p, v = plain o p ∧ v' = plain o' p) ∨
      (∃ o o' items items', v = array o items ∧ v' = array o' items' ∧
        items.map bare = items'.map bare) ∨
      ∃ o o' members members', v = table o members ∧ v' = table o' members' ∧
        bareMembers members = bareMembers members' := by
  cases v <;> cases v' <;> simp only [bare, reduceCtorEq, plain.injEq, array.injEq, table.injEq,
    true_and, bareItems_eq] at h
  · exact .inl ⟨_, _, _, rfl, by rw [h]⟩
  · exact .inr (.inl ⟨_, _, _, _, rfl, rfl, h⟩)
  · exact .inr (.inr ⟨_, _, _, _, rfl, rfl, h⟩)

def IsRecord : Value → Prop
  | plain _ _ => False
  | _ => True

end Value

section Except

variable {ε α β : Type}

lemma bind_eq_ok {x : Except ε α} {f : α → Except ε β} {b : β} :
    (x >>= f) = .ok b ↔ ∃ a, x = .ok a ∧ f a = .ok b := by
  cases x with
  | error e => exact ⟨fun h => (nomatch h), fun ⟨_, h, _⟩ => (nomatch h)⟩
  | ok a => exact ⟨fun h => ⟨a, rfl, h⟩, fun ⟨_, h, hb⟩ => by cases h; exact hb⟩

lemma toOption_eq_some {x : Except ε α} {a : α} : x.toOption = some a ↔ x = .ok a := by
  cases x with
  | error e => exact ⟨fun h => (nomatch h), fun h => (nomatch h)⟩
  | ok b => exact ⟨fun h => congrArg _ (Option.some.inj h), fun h => congrArg _ (Except.ok.inj h)⟩

lemma toOption_bind (x : Except ε α) (f : α → Except ε β) :
    (x >>= f).toOption = x.toOption.bind fun a => (f a).toOption := by
  cases x <;> rfl

lemma toOption_mapM_congr {γ : Type} {f : α → Except ε β} {look : α → γ} {as as' : List α}
    (hf : ∀ a a', look a = look a' → (f a).toOption = (f a').toOption)
    (h : as.map look = as'.map look) : (as.mapM f).toOption = (as'.mapM f).toOption := by
  induction as generalizing as' with
  | nil =>
    rw [List.map_eq_nil_iff.1 h.symm]
  | cons a as ih =>
    obtain ⟨a', rest, rfl, ha, hrest⟩ := List.map_eq_cons_iff.1 h.symm
    simp only [List.mapM_cons, toOption_bind, hf a a' ha.symm, ih hrest.symm]

end Except

namespace Located

variable {l l' : Located}

lemma congr_of_plain {α : Type} {read : Located → Except Cause α}
    (hplain : ∀ k k' o o' p,
      (read ⟨k, .plain o p⟩).toOption = (read ⟨k', .plain o' p⟩).toOption)
    (harray : ∀ k o items, (read ⟨k, .array o items⟩).toOption = none)
    (htable : ∀ k o members, (read ⟨k, .table o members⟩).toOption = none)
    (h : l.value.bare = l'.value.bare) : (read l).toOption = (read l').toOption := by
  obtain ⟨key, v⟩ := l
  obtain ⟨key', v'⟩ := l'
  obtain ⟨o, o', p, rfl, rfl⟩ | ⟨_, _, _, _, rfl, rfl, _⟩ | ⟨_, _, _, _, rfl, rfl, _⟩ :=
    Value.cases_of_bare_eq h
  · exact hplain _ _ _ _ p
  · rw [harray, harray]
  · rw [htable, htable]

lemma text_congr (h : l.value.bare = l'.value.bare) : l.text.toOption = l'.text.toOption := by
  refine congr_of_plain (fun _ _ _ _ p => ?_) (fun _ _ _ => rfl) (fun _ _ _ => rfl) h
  cases p <;> rfl

lemma nullableText_congr (h : l.value.bare = l'.value.bare) :
    l.nullableText.toOption = l'.nullableText.toOption := by
  refine congr_of_plain (fun _ _ _ _ p => ?_) (fun _ _ _ => rfl) (fun _ _ _ => rfl) h
  cases p <;> rfl

lemma bool_congr (h : l.value.bare = l'.value.bare) : l.bool.toOption = l'.bool.toOption := by
  refine congr_of_plain (fun _ _ _ _ p => ?_) (fun _ _ _ => rfl) (fun _ _ _ => rfl) h
  cases p with
  | text s =>
    simp only [bool]
    split
    · rfl
    · split <;> rfl
  | _ => rfl

lemma whole_congr (width : Width) (h : l.value.bare = l'.value.bare) :
    (l.whole width).toOption = (l'.whole width).toOption := by
  refine congr_of_plain (fun _ _ _ _ p => ?_) (fun _ _ _ => rfl) (fun _ _ _ => rfl) h
  cases p with
  | int n =>
    simp only [whole]
    split <;> rfl
  | text s =>
    simp only [whole]
    split <;> rfl
  | _ => rfl

lemma int_congr (width : Width) (h : l.value.bare = l'.value.bare) :
    (l.int width).toOption = (l'.int width).toOption := by
  have hlarge : ∀ (l : Located) (n : Int),
      (do if width.greatest < n then
            throw (.mistyped (.word n.toNat) "an unsigned 16 bit integer" l.key none)
          return n : Except Cause Int).toOption =
        if width.greatest < n then none else some n := by
    intro l n
    split <;> rfl
  rw [int, int, toOption_bind, toOption_bind, whole_congr width h]
  simp only [hlarge]

lemma word_congr (width : Width) (h : l.value.bare = l'.value.bare) :
    (valueReading.word width l).toOption = (valueReading.word width l').toOption := by
  have hmap : ∀ l : Located, (valueReading.word width l).toOption =
      (l.int width).toOption.map Int.toNat := by
    intro l
    change ((l.int width).map Int.toNat).toOption = _
    cases l.int width <;> rfl
  rw [hmap, hmap, int_congr width h]

lemma backend_congr (h : l.value.bare = l'.value.bare) :
    l.backend.toOption = l'.backend.toOption := by
  obtain ⟨key, v⟩ := l
  obtain ⟨key', v'⟩ := l'
  obtain ⟨o, o', p, rfl, rfl⟩ | ⟨_, _, _, _, rfl, rfl, _⟩ | ⟨_, _, ms, ms', rfl, rfl, hmembers⟩ :=
    Value.cases_of_bare_eq h
  · cases p <;> rfl
  · rfl
  · -- of a table's members only the key of a single one counts
    rcases ms with _ | ⟨⟨k, w⟩, _ | ⟨e, ms⟩⟩ <;> rcases ms' with _ | ⟨⟨k', w'⟩, _ | ⟨e', ms'⟩⟩ <;>
      simp_all [Value.bareMembers, backend]

lemma map_value_items (l : Located) (vs : List Value) : (l.items vs).map value = vs := by
  rw [items, List.map_map]
  change (vs.zipIdx.map Prod.fst) = vs
  exact List.zipIdx_map_fst 0 vs

lemma texts_congr (h : l.value.bare = l'.value.bare) : l.texts.toOption = l'.texts.toOption := by
  obtain ⟨key, v⟩ := l
  obtain ⟨key', v'⟩ := l'
  obtain ⟨o, o', p, rfl, rfl⟩ | ⟨_, _, items, items', rfl, rfl, hitems⟩ | ⟨_, _, _, _, rfl, rfl, _⟩ :=
    Value.cases_of_bare_eq h
  · rfl
  · have hlook : ∀ (l : Located) vs, (l.items vs).map (fun a => a.value.bare) = vs.map Value.bare := by
      intro l vs
      simpa [Function.comp_def] using congrArg (List.map Value.bare) (l.map_value_items vs)
    refine toOption_mapM_congr (fun a b => text_congr) ?_
    rw [hlook, hlook, hitems]
  · rfl

end Located

namespace Setting

@[reducible] def Content : Setting → Type
  | backend => Erp.Backend
  | debug | trustCertificate => Bool
  | warehouses => List String
  | instanceName => Option String
  | lastPriceList | invoiceDocument | orderDocument => Int
  | port | maxOpen | maxLifetime | connectTimeout | maxRows | queryTimeout | priceTimeout
  | healthTimeout | maxBody => Nat
  | listen | token | host | user | database | excludedOrderPrefix | profile => String

def of (c : Configuration) : (x : Setting) → x.Content
  | backend => c.backend
  | listen => c.listen
  | token => c.token
  | debug => c.debug
  | warehouses => c.warehouses
  | host => c.database.host
  | port => c.database.port
  | user => c.database.user
  | database => c.database.database
  | instanceName => c.database.instanceName
  | trustCertificate => c.database.trustCertificate
  | maxOpen => c.database.maxOpen
  | maxLifetime => c.database.maxLifetimeSeconds
  | connectTimeout => c.database.connectTimeoutSeconds
  | lastPriceList => c.pricing.lastPriceList
  | invoiceDocument => c.pricing.invoiceDocument
  | orderDocument => c.pricing.orderDocument
  | excludedOrderPrefix => c.pricing.excludedOrderPrefix
  | maxRows => c.limits.maxRows
  | queryTimeout => c.limits.queryTimeoutSeconds
  | priceTimeout => c.limits.priceTimeoutSeconds
  | healthTimeout => c.limits.healthTimeoutSeconds
  | maxBody => c.limits.maxBodyOctets
  | profile => c.profile

def default? : (x : Setting) → Option x.Content
  | backend | host => none
  | listen => some "127.0.0.1:8080"
  | token | user | database => some ""
  | debug => some false
  | warehouses => some ["10"]
  | port => some 1433
  | instanceName => some none
  | trustCertificate => some true
  | maxOpen => some 10
  | maxLifetime => some 1800
  | connectTimeout => some 5
  | lastPriceList => some 99
  | invoiceDocument => some 1
  | orderDocument => some 11
  | excludedOrderPrefix => some "90"
  | maxRows => some 10000
  | queryTimeout => some 8
  | priceTimeout => some 12
  | healthTimeout => some 3
  | maxBody => some 1048576
  | profile => some "production"

def reading : (x : Setting) → Located → Except Cause x.Content
  | backend => Located.backend
  | debug | trustCertificate => Located.bool
  | warehouses => Located.texts
  | instanceName => Located.nullableText
  | lastPriceList | invoiceDocument | orderDocument => Located.int .int64
  | port => valueReading.word .word16
  | maxOpen | maxLifetime | connectTimeout | maxRows | queryTimeout | priceTimeout | healthTimeout
  | maxBody => valueReading.word .word64
  | listen | token | host | user | database | excludedOrderPrefix | profile => Located.text

def read (x : Setting) : Option Value → Option x.Content
  | none => x.default?
  | some v => (x.reading { value := v }).toOption

lemma reading_congr (x : Setting) {l l' : Located} (h : l.value.bare = l'.value.bare) :
    (x.reading l).toOption = (x.reading l').toOption := by
  cases x
  case backend => exact Located.backend_congr h
  case warehouses => exact Located.texts_congr h
  case instanceName => exact Located.nullableText_congr h
  case debug | trustCertificate => exact Located.bool_congr h
  case lastPriceList | invoiceDocument | orderDocument => exact Located.int_congr _ h
  case listen | token | host | user | database | excludedOrderPrefix | profile =>
    exact Located.text_congr h
  all_goals exact Located.word_congr _ h

lemma read_congr (x : Setting) {v v' : Option Value} (h : v.map Value.bare = v'.map Value.bare) :
    x.read v = x.read v' := by
  cases v <;> cases v' <;> simp only [Option.map_none, Option.map_some, reduceCtorEq,
    Option.some.injEq] at h
  · rfl
  · exact x.reading_congr h

end Setting

section Taken

variable {V E α β : Type} {r : Members V} {name : String} {read : V → Except E α} {a : α}

def Members.taken (r : Members V) (name : String) (read : V → Except E α) (absent : Option α) :
    Option α :=
  (r.given name read).toOption.bind (·.or absent)

lemma taken_of_none {absent : Option α} (h : r.entries.get? name = none) :
    r.taken name read absent = absent := by
  rw [Members.taken, Members.given, h]
  rfl

lemma taken_of_some {absent : Option α} {v : V} (h : r.entries.get? name = some v) :
    r.taken name read absent = (read v).toOption := by
  rw [Members.taken, Members.given, h]
  change ((read v).map some).toOption.bind _ = _
  cases read v <;> rfl

lemma taken_of_given {o : Option α} (h : r.given name read = .ok o) (absent : Option α) :
    r.taken name read absent = o.or absent := by
  rw [Members.taken, h]
  rfl

lemma given_of_taken {absent : Option α} (h : r.taken name read absent = some a) :
    ∃ o, r.given name read = .ok o ∧ o.or absent = some a := by
  obtain ⟨o, ho, ha⟩ := Option.bind_eq_some_iff.1 h
  exact ⟨o, toOption_eq_some.1 ho, ha⟩

lemma given_bind_eq_ok {absent : α} {f : Option α → Except E β} {b : β}
    (h : r.taken name read (some absent) = some a)
    (hf : ∀ o : Option α, o.getD absent = a → f o = .ok b) : (r.given name read >>= f) = .ok b := by
  obtain ⟨o, ho, ha⟩ := given_of_taken h
  refine bind_eq_ok.2 ⟨o, ho, hf o ?_⟩
  rwa [Option.or_some, Option.some.injEq] at ha

lemma given_bind_eq_ok_of_required {f : Option α → Except E β} {b : β}
    (h : r.taken name read none = some a) (hf : f (some a) = .ok b) :
    (r.given name read >>= f) = .ok b := by
  obtain ⟨o, ho, ha⟩ := given_of_taken h
  rw [Option.or_none] at ha
  exact bind_eq_ok.2 ⟨o, ho, ha ▸ hf⟩

lemma eq_some_of_demand {R : Reading V E} {shape : Shape} {o : Option α}
    (h : R.demand shape r name o = .ok a) : o = some a := by
  cases o with
  | none => cases h
  | some b => exact congrArg some (Except.ok.inj h)

lemma taken_with_default {o : Option α} {absent : α} (h : r.given name read = .ok o) :
    r.taken name read (some absent) = some (o.getD absent) := by
  rw [taken_of_given h, Option.or_some]

lemma taken_of_demand {R : Reading V E} {shape : Shape} {o : Option α}
    (h : r.given name read = .ok o) (hdemand : R.demand shape r name o = .ok a) :
    r.taken name read none = some a := by
  rw [taken_of_given h, Option.or_none]
  exact eq_some_of_demand hdemand

end Taken

namespace Section

@[reducible] def Content : Section → Type
  | database => DatabaseSettings
  | pricing => PricingSettings
  | limits => Limits
  | logging => String

def of (c : Configuration) : (S : Section) → S.Content
  | database => c.database
  | pricing => c.pricing
  | limits => c.limits
  | logging => c.profile

def default? : (S : Section) → Option S.Content
  | database => none
  | pricing => some {}
  | limits => some {}
  | logging => some "production"

def reading : (S : Section) → Located → Except Cause S.Content
  | database => valueReading.database
  | pricing => valueReading.pricing
  | limits => valueReading.limits
  | logging => valueReading.profile

end Section

def Setting.taken (x : Setting) (r : Members Located) : Option x.Content :=
  r.taken x.name x.reading x.default?

def Section.taken (S : Section) (r : Members Located) : Option S.Content :=
  r.taken S.name S.reading S.default?

section Sections

variable {l : Located} {c : Configuration}

lemma pricing_eq_ok_iff :
    valueReading.pricing l = .ok c.pricing ↔
      ∃ r, l.record Reading.pricingShape = .ok r ∧
        ∀ x : Setting, x.section? = some .pricing → x.taken r = some (x.of c) := by
  constructor
  · intro h
    obtain ⟨r, hr, h⟩ := bind_eq_ok.1 h
    obtain ⟨last, hlast, h⟩ := bind_eq_ok.1 h
    obtain ⟨invoice, hinvoice, h⟩ := bind_eq_ok.1 h
    obtain ⟨order, horder, h⟩ := bind_eq_ok.1 h
    obtain ⟨excluded, hexcluded, h⟩ := bind_eq_ok.1 h
    have hc := Except.ok.inj h
    refine ⟨r, hr, fun x hx => ?_⟩
    cases x <;> try (cases hx; done)
    case lastPriceList =>
      rw [Setting.of, ← hc]
      exact taken_with_default hlast
    case invoiceDocument =>
      rw [Setting.of, ← hc]
      exact taken_with_default hinvoice
    case orderDocument =>
      rw [Setting.of, ← hc]
      exact taken_with_default horder
    case excludedOrderPrefix =>
      rw [Setting.of, ← hc]
      exact taken_with_default hexcluded
  · rintro ⟨r, hr, h⟩
    refine bind_eq_ok.2 ⟨r, hr, ?_⟩
    refine given_bind_eq_ok (h .lastPriceList rfl) fun last hlast => ?_
    refine given_bind_eq_ok (h .invoiceDocument rfl) fun invoice hinvoice => ?_
    refine given_bind_eq_ok (h .orderDocument rfl) fun order horder => ?_
    refine given_bind_eq_ok (h .excludedOrderPrefix rfl) fun excluded hexcluded => ?_
    change Except.ok _ = _
    rw [hlast, hinvoice, horder, hexcluded]
    rfl

lemma limits_eq_ok_iff :
    valueReading.limits l = .ok c.limits ↔
      ∃ r, l.record Reading.limitsShape = .ok r ∧
        ∀ x : Setting, x.section? = some .limits → x.taken r = some (x.of c) := by
  constructor
  · intro h
    obtain ⟨r, hr, h⟩ := bind_eq_ok.1 h
    obtain ⟨rows, hrows, h⟩ := bind_eq_ok.1 h
    obtain ⟨query, hquery, h⟩ := bind_eq_ok.1 h
    obtain ⟨price, hprice, h⟩ := bind_eq_ok.1 h
    obtain ⟨health, hhealth, h⟩ := bind_eq_ok.1 h
    obtain ⟨octets, hoctets, h⟩ := bind_eq_ok.1 h
    have hc := Except.ok.inj h
    refine ⟨r, hr, fun x hx => ?_⟩
    cases x <;> try (cases hx; done)
    case maxRows =>
      rw [Setting.of, ← hc]
      exact taken_with_default hrows
    case queryTimeout =>
      rw [Setting.of, ← hc]
      exact taken_with_default hquery
    case priceTimeout =>
      rw [Setting.of, ← hc]
      exact taken_with_default hprice
    case healthTimeout =>
      rw [Setting.of, ← hc]
      exact taken_with_default hhealth
    case maxBody =>
      rw [Setting.of, ← hc]
      exact taken_with_default hoctets
  · rintro ⟨r, hr, h⟩
    refine bind_eq_ok.2 ⟨r, hr, ?_⟩
    refine given_bind_eq_ok (h .maxRows rfl) fun rows hrows => ?_
    refine given_bind_eq_ok (h .queryTimeout rfl) fun query hquery => ?_
    refine given_bind_eq_ok (h .priceTimeout rfl) fun price hprice => ?_
    refine given_bind_eq_ok (h .healthTimeout rfl) fun health hhealth => ?_
    refine given_bind_eq_ok (h .maxBody rfl) fun octets hoctets => ?_
    change Except.ok _ = _
    rw [hrows, hquery, hprice, hhealth, hoctets]
    rfl

lemma profile_eq_ok_iff :
    valueReading.profile l = .ok c.profile ↔
      ∃ r, l.record Reading.loggingShape = .ok r ∧
        ∀ x : Setting, x.section? = some .logging → x.taken r = some (x.of c) := by
  constructor
  · intro h
    obtain ⟨r, hr, h⟩ := bind_eq_ok.1 h
    obtain ⟨name, hname, h⟩ := bind_eq_ok.1 h
    have hc := Except.ok.inj h
    refine ⟨r, hr, fun x hx => ?_⟩
    cases x <;> try (cases hx; done)
    case profile =>
      rw [Setting.of, ← hc]
      exact taken_with_default hname
  · rintro ⟨r, hr, h⟩
    refine bind_eq_ok.2 ⟨r, hr, ?_⟩
    refine given_bind_eq_ok (h .profile rfl) fun name hname => ?_
    change Except.ok _ = _
    rw [hname]
    rfl

lemma database_eq_ok_iff :
    valueReading.database l = .ok c.database ↔
      ∃ r, l.record Reading.databaseShape = .ok r ∧
        ∀ x : Setting, x.section? = some .database → x.taken r = some (x.of c) := by
  constructor
  · intro h
    obtain ⟨r, hr, h⟩ := bind_eq_ok.1 h
    obtain ⟨host, hhost, h⟩ := bind_eq_ok.1 h
    obtain ⟨port, hport, h⟩ := bind_eq_ok.1 h
    obtain ⟨user, huser, h⟩ := bind_eq_ok.1 h
    obtain ⟨database, hdatabase, h⟩ := bind_eq_ok.1 h
    obtain ⟨named, hnamed, h⟩ := bind_eq_ok.1 h
    obtain ⟨trust, htrust, h⟩ := bind_eq_ok.1 h
    obtain ⟨most, hmost, h⟩ := bind_eq_ok.1 h
    obtain ⟨lifetime, hlifetime, h⟩ := bind_eq_ok.1 h
    obtain ⟨connect, hconnect, h⟩ := bind_eq_ok.1 h
    obtain ⟨host', ehost, h⟩ := bind_eq_ok.1 h
    have hc := Except.ok.inj h
    refine ⟨r, hr, fun x hx => ?_⟩
    cases x <;> try (cases hx; done)
    case host =>
      rw [Setting.of, ← hc]
      exact taken_of_demand hhost ehost
    case port =>
      rw [Setting.of, ← hc]
      exact taken_with_default hport
    case user =>
      rw [Setting.of, ← hc]
      exact taken_with_default huser
    case database =>
      rw [Setting.of, ← hc]
      exact taken_with_default hdatabase
    case instanceName =>
      rw [Setting.of, ← hc]
      exact taken_with_default hnamed
    case trustCertificate =>
      rw [Setting.of, ← hc]
      exact taken_with_default htrust
    case maxOpen =>
      rw [Setting.of, ← hc]
      exact taken_with_default hmost
    case maxLifetime =>
      rw [Setting.of, ← hc]
      exact taken_with_default hlifetime
    case connectTimeout =>
      rw [Setting.of, ← hc]
      exact taken_with_default hconnect
  · rintro ⟨r, hr, h⟩
    refine bind_eq_ok.2 ⟨r, hr, ?_⟩
    refine given_bind_eq_ok_of_required (h .host rfl) ?_
    refine given_bind_eq_ok (h .port rfl) fun port hport => ?_
    refine given_bind_eq_ok (h .user rfl) fun user huser => ?_
    refine given_bind_eq_ok (h .database rfl) fun database hdatabase => ?_
    refine given_bind_eq_ok (h .instanceName rfl) fun named hnamed => ?_
    refine given_bind_eq_ok (h .trustCertificate rfl) fun trust htrust => ?_
    refine given_bind_eq_ok (h .maxOpen rfl) fun most hmost => ?_
    refine given_bind_eq_ok (h .maxLifetime rfl) fun lifetime hlifetime => ?_
    refine given_bind_eq_ok (h .connectTimeout rfl) fun connect hconnect => ?_
    change Except.ok _ = _
    rw [hport, huser, hdatabase, hnamed, htrust, hmost, hlifetime, hconnect]
    rfl

lemma Section.reading_eq_ok_iff (S : Section) :
    S.reading l = .ok (S.of c) ↔
      ∃ r, l.record S.shape = .ok r ∧
        ∀ x : Setting, x.section? = some S → x.taken r = some (x.of c) := by
  cases S
  case database => exact database_eq_ok_iff
  case pricing => exact pricing_eq_ok_iff
  case limits => exact limits_eq_ok_iff
  case logging => exact profile_eq_ok_iff

lemma Section.toOption_reading_nil (S : Section) :
    (S.reading { value := .table none [] }).toOption = S.default? := by
  cases S <;> rfl

lemma Section.default?_eq_iff (S : Section) :
    S.default? = some (S.of c) ↔
      ∀ x : Setting, x.section? = some S → x.default? = some (x.of c) := by
  -- a section that is not there is read as one without members
  rw [← S.toOption_reading_nil, toOption_eq_some, S.reading_eq_ok_iff]
  constructor
  · rintro ⟨r, hr, h⟩
    cases hr
    exact h
  · intro h
    exact ⟨_, rfl, h⟩

lemma configuration_eq_ok_iff :
    valueReading.configuration l = .ok c ↔
      ∃ r, l.record Reading.configurationShape = .ok r ∧
        (∀ x : Setting, x.section? = none → x.taken r = some (x.of c)) ∧
        ∀ S : Section, S.taken r = some (S.of c) := by
  constructor
  · intro h
    obtain ⟨r, hr, h⟩ := bind_eq_ok.1 h
    obtain ⟨backend, hbackend, h⟩ := bind_eq_ok.1 h
    obtain ⟨listen, hlisten, h⟩ := bind_eq_ok.1 h
    obtain ⟨token, htoken, h⟩ := bind_eq_ok.1 h
    obtain ⟨debug, hdebug, h⟩ := bind_eq_ok.1 h
    obtain ⟨database, hdatabase, h⟩ := bind_eq_ok.1 h
    obtain ⟨warehouses, hwarehouses, h⟩ := bind_eq_ok.1 h
    obtain ⟨pricing, hpricing, h⟩ := bind_eq_ok.1 h
    obtain ⟨limits, hlimits, h⟩ := bind_eq_ok.1 h
    obtain ⟨profile, hprofile, h⟩ := bind_eq_ok.1 h
    obtain ⟨backend', ebackend, h⟩ := bind_eq_ok.1 h
    obtain ⟨database', edatabase, h⟩ := bind_eq_ok.1 h
    have hc := Except.ok.inj h
    refine ⟨r, hr, fun x hx => ?_, fun S => ?_⟩
    · cases x <;> try (cases hx; done)
      case backend =>
        rw [Setting.of, ← hc]
        exact taken_of_demand hbackend ebackend
      case listen =>
        rw [Setting.of, ← hc]
        exact taken_with_default hlisten
      case token =>
        rw [Setting.of, ← hc]
        exact taken_with_default htoken
      case debug =>
        rw [Setting.of, ← hc]
        exact taken_with_default hdebug
      case warehouses =>
        rw [Setting.of, ← hc]
        exact taken_with_default hwarehouses
    · cases S
      case database =>
        rw [Section.of, ← hc]
        exact taken_of_demand hdatabase edatabase
      case pricing =>
        rw [Section.of, ← hc]
        exact taken_with_default hpricing
      case limits =>
        rw [Section.of, ← hc]
        exact taken_with_default hlimits
      case logging =>
        rw [Section.of, ← hc]
        exact taken_with_default hprofile
  · rintro ⟨r, hr, hsettings, hsections⟩
    refine bind_eq_ok.2 ⟨r, hr, ?_⟩
    refine given_bind_eq_ok_of_required (hsettings .backend rfl) ?_
    refine given_bind_eq_ok (hsettings .listen rfl) fun listen hlisten => ?_
    refine given_bind_eq_ok (hsettings .token rfl) fun token htoken => ?_
    refine given_bind_eq_ok (hsettings .debug rfl) fun debug hdebug => ?_
    refine given_bind_eq_ok_of_required (hsections .database) ?_
    refine given_bind_eq_ok (hsettings .warehouses rfl) fun warehouses hwarehouses => ?_
    refine given_bind_eq_ok (hsections .pricing) fun pricing hpricing => ?_
    refine given_bind_eq_ok (hsections .limits) fun limits hlimits => ?_
    refine given_bind_eq_ok (hsections .logging) fun profile hprofile => ?_
    change Except.ok _ = _
    rw [hlisten, htoken, hdebug, hwarehouses, hpricing, hlimits, hprofile]
    rfl

end Sections

section Records

variable {shape : Shape} {l : Located} {r : Members Located} {c : Configuration}

lemma exists_record (shape : Shape) (h : l.value.IsRecord) : ∃ r, l.record shape = .ok r := by
  obtain ⟨key, v⟩ := l
  cases v with
  | plain => exact h.elim
  | array | table => exact ⟨_, rfl⟩

lemma isRecord_of_record (h : l.record shape = .ok r) : l.value.IsRecord := by
  obtain ⟨key, v⟩ := l
  cases v with
  | plain => cases h
  | array | table => exact trivial

lemma map_value_get? (h : l.record shape = .ok r) (name : String) :
    (r.entries.get? name).map Located.value = l.value.member? shape name := by
  rw [← Keyed.get?_map_snd]
  obtain ⟨key, v⟩ := l
  cases v with
  | plain => cases h
  | array origin items =>
    cases h
    change Keyed.get? name (List.map _ (List.zip _ _)) = Keyed.get? name (List.zip _ items)
    rw [← List.zip_map_right, Located.map_value_items]
  | table origin members =>
    cases h
    change Keyed.get? name (List.map _ (List.filterMap _ members)) =
      Keyed.get? name (List.filterMap _ members)
    rw [List.map_filterMap]
    simp only [Option.map_map]
    rfl

lemma Setting.taken_eq_read (x : Setting) (h : l.record shape = .ok r) :
    x.taken r = x.read (l.value.member? shape x.name) := by
  rw [← map_value_get? h, Setting.taken]
  cases hx : r.entries.get? x.name with
  | none => exact taken_of_none hx
  | some l' =>
    rw [taken_of_some hx]
    exact x.reading_congr rfl

lemma Section.taken_eq_some_iff (S : Section) (h : l.record Reading.configurationShape = .ok r) :
    S.taken r = some (S.of c) ↔
      (∀ w, l.value.section? S = some w → w.IsRecord) ∧
        ∀ x : Setting, x.section? = some S → x.read (l.value.at? x) = some (x.of c) := by
  have hat : ∀ x : Setting, x.section? = some S →
      l.value.at? x = (l.value.section? S).bind (·.member? S.shape x.name) := by
    intro x hx
    rw [Value.at?, hx]
  have hsection : (r.entries.get? S.name).map Located.value = l.value.section? S :=
    map_value_get? h S.name
  rw [Section.taken]
  cases hS : r.entries.get? S.name with
  | none =>
    rw [hS, Option.map_none] at hsection
    rw [taken_of_none hS, S.default?_eq_iff]
    constructor
    · intro h
      refine ⟨fun w hw => ?_, fun x hx => ?_⟩
      · rw [← hsection] at hw
        cases hw
      · rw [hat x hx, ← hsection]
        exact h x hx
    · intro h x hx
      have hread := h.2 x hx
      rwa [hat x hx, ← hsection] at hread
  | some l' =>
    rw [hS, Option.map_some] at hsection
    rw [taken_of_some hS, toOption_eq_some, S.reading_eq_ok_iff]
    have htaken : ∀ r' (x : Setting), l'.record S.shape = .ok r' → x.section? = some S →
        x.taken r' = x.read (l.value.at? x) := by
      intro r' x hr' hx
      rw [x.taken_eq_read hr', hat x hx, ← hsection]
      rfl
    constructor
    · rintro ⟨r', hr', h⟩
      refine ⟨fun w hw => ?_, fun x hx => ?_⟩
      · rw [← hsection, Option.some.injEq] at hw
        exact hw ▸ isRecord_of_record hr'
      · rw [← htaken r' x hr' hx]
        exact h x hx
    · rintro ⟨hrecord, h⟩
      obtain ⟨r', hr'⟩ := exists_record S.shape (hrecord _ hsection.symm)
      refine ⟨r', hr', fun x hx => ?_⟩
      rw [htaken r' x hr' hx]
      exact h x hx

lemma configuration_eq_ok_iff_read {v : Value} :
    valueReading.configuration { value := v } = .ok c ↔
      v.IsRecord ∧ (∀ S w, v.section? S = some w → w.IsRecord) ∧
        ∀ x : Setting, x.read (v.at? x) = some (x.of c) := by
  have htop : ∀ (r : Members Located) (x : Setting), x.section? = none →
      Located.record Reading.configurationShape { value := v } = .ok r →
      x.taken r = x.read (v.at? x) := by
    intro r x hx hr
    rw [x.taken_eq_read hr, Value.at?, hx]
  rw [configuration_eq_ok_iff]
  constructor
  · rintro ⟨r, hr, hsettings, hsections⟩
    have hsection := fun S => (Section.taken_eq_some_iff S hr).1 (hsections S)
    refine ⟨isRecord_of_record hr, fun S => (hsection S).1, fun x => ?_⟩
    cases hx : x.section? with
    | none =>
      rw [← htop r x hx hr]
      exact hsettings x hx
    | some S => exact (hsection S).2 x hx
  · rintro ⟨hrecord, hsections, hread⟩
    obtain ⟨r, hr⟩ := exists_record (l := { value := v }) Reading.configurationShape hrecord
    refine ⟨r, hr, fun x hx => ?_, fun S => ?_⟩
    · rw [htop r x hx hr]
      exact hread x
    · exact (Section.taken_eq_some_iff S hr).2 ⟨hsections S, fun x _ => hread x⟩

end Records

end ErpGateway.Config
