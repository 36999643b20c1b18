import ErpGateway.Proofs.Erp.Template

/-! A statement made from a text that fits its names and lists is well formed: nothing is left of the
marks, and the names that its text speaks of are those that it binds or declares. -/

namespace ErpGateway.Sql

open Text

/-- No mark is left in the text; its names are bound or declared; what is bound is spoken of, under names
that stay apart when their case is ignored. -/
structure Statement.WellFormed (s : Statement) : Prop where
  unmarked : ∀ m : Erp.Marker, ¬ m.mark <:+: s.text.toList
  known : ∀ x ∈ namesIn s.text.toList,
    x ∈ s.params.map (fun p => p.1.toList) ∨ x ∈ declared s.text.toList
  used : ∀ p ∈ s.params, p.1.toList ∈ namesIn s.text.toList
  distinct : (s.params.map fun p => lower p.1.toList).Nodup
  apart : ∀ p ∈ s.params, ∀ x ∈ declared s.text.toList, lower p.1.toList ≠ lower x

lemma mem_namesIn_iff {x cs : List Char} : x ∈ namesIn cs ↔ .named x ∈ tokens cs := by
  rw [namesIn, namesOf, List.mem_filterMap]
  constructor
  · rintro ⟨t, ht, hx⟩
    cases t with
    | named cs =>
      obtain rfl : cs = x := Option.some.inj hx
      exact ht
    | word cs => simp [Token.named?] at hx
    | mark c => simp [Token.named?] at hx
  · intro h
    exact ⟨.named x, h, rfl⟩

lemma mark_mem_tokens {c : Char} (hc : IsBreak c) {cs : List Char} (h : c ∈ cs) :
    .mark c ∈ tokens cs := by
  obtain ⟨before, after, rfl⟩ := List.append_of_mem h
  rw [tokens_append_break before hc after]
  simp

lemma mem_tokens_names {names : List (List Char)}
    (h : ∀ x ∈ names, x ≠ [] ∧ ∀ c ∈ x, isIdentifierTail c = true) (t : Token) :
    t ∈ tokens ([',', ' '].intercalate (names.map ('@' :: ·))) ↔
      (∃ x ∈ names, t = .named x) ∨ 1 < names.length ∧ (t = .mark ',' ∨ t = .mark ' ') := by
  induction names with
  | nil => simp [tokens]
  | cons x names ih =>
    obtain ⟨hne, hx⟩ := h x (by simp)
    have ih := ih fun y hy => h y (List.mem_cons_of_mem x hy)
    cases names with
    | nil => simp [tokens_named hne hx]
    | cons y names =>
      have htokens : tokens ([',', ' '].intercalate ((x :: y :: names).map ('@' :: ·))) =
          .named x :: .mark ',' :: .mark ' ' ::
            tokens ([',', ' '].intercalate ((y :: names).map ('@' :: ·))) := by
        have hcut : [',', ' '].intercalate ((x :: y :: names).map ('@' :: ·)) =
            ('@' :: x) ++ ',' :: ' ' :: [',', ' '].intercalate ((y :: names).map ('@' :: ·)) := by
          simp [List.intercalate_cons_cons]
        rw [hcut, tokens_append_break (c := ',') _ (by decide),
          tokens_cons_break (c := ' ') (by decide), tokens_named hne hx]
        rfl
      rw [htokens, List.mem_cons, List.mem_cons, List.mem_cons, ih]
      simp only [List.mem_cons, List.length_cons]
      constructor
      · rintro (rfl | rfl | rfl | ⟨z, hz, rfl⟩ | ⟨-, h⟩)
        · exact Or.inl ⟨x, Or.inl rfl, rfl⟩
        · exact Or.inr ⟨by omega, Or.inl rfl⟩
        · exact Or.inr ⟨by omega, Or.inr rfl⟩
        · exact Or.inl ⟨z, Or.inr hz, rfl⟩
        · exact Or.inr ⟨by omega, h⟩
      · rintro (⟨z, rfl | hz, rfl⟩ | ⟨-, rfl | rfl⟩)
        · exact Or.inl rfl
        · exact Or.inr (Or.inr (Or.inr (Or.inl ⟨z, hz, rfl⟩)))
        · exact Or.inr (Or.inl rfl)
        · exact Or.inr (Or.inr (Or.inl rfl))

end ErpGateway.Sql

namespace ErpGateway.Erp

open Sql Text

namespace Marker

variable (m : Marker)

lemma isIdentifierTail_of_mem_stem : ∀ c ∈ m.stem.toList, isIdentifierTail c = true := by
  apply List.all_eq_true.mp
  cases m <;> decide

def item (i : Nat) : List Char :=
  (Statement.itemName m.stem i).toList

lemma item_eq (i : Nat) : m.item i = m.stem.toList ++ '_' :: Decimal.digits i := by
  simp [item, Statement.itemName]

lemma isIdentifierTail_of_mem_item (i : Nat) : ∀ c ∈ m.item i, isIdentifierTail c = true := by
  intro c hc
  rw [item_eq, List.mem_append, List.mem_cons] at hc
  rcases hc with hc | rfl | hc
  · exact m.isIdentifierTail_of_mem_stem c hc
  · decide
  · simp [isIdentifierTail, Char.isAlphanum, Decimal.isDigit_of_mem_digits hc]

lemma item_ne_nil (i : Nat) : m.item i ≠ [] := by
  rw [item_eq]
  simp

lemma lower_item (i : Nat) : lower (m.item i) = m.item i := by
  have hstem : lower m.stem.toList = m.stem.toList := by
    cases m <;> decide
  rw [item_eq, lower, List.map_append, List.map_cons, Decimal.map_toLower_digits]
  rw [lower] at hstem
  rw [hstem]
  rfl

lemma item_inj {m m' : Marker} {i j : Nat} (h : m.item i = m'.item j) : m = m' ∧ i = j := by
  rw [item_eq, item_eq] at h
  obtain rfl : m = m' := by
    cases m <;> cases m' <;> first
      | rfl
      | (exfalso; revert h; simp [stem])
  have hdigits := List.append_cancel_left h
  exact ⟨rfl, Decimal.digits_injective (List.cons.inj hdigits).2⟩

def placeholders (count : Nat) : List Char :=
  (Statement.placeholders m.stem count).toList

lemma placeholders_zero : m.placeholders 0 = "NULL".toList := rfl

lemma placeholders_succ (count : Nat) : m.placeholders (count + 1) =
    [',', ' '].intercalate (((List.range (count + 1)).map m.item).map ('@' :: ·)) := by
  rw [placeholders, Statement.placeholders, if_neg (Nat.succ_ne_zero count),
    String.toList_intercalate, List.map_map, List.map_map]
  congr 1
  apply List.map_congr_left
  intro i _
  simp [item]

lemma tokens_placeholders_zero : tokens (m.placeholders 0) = [.word "NULL".toList] := by
  rw [placeholders_zero]
  decide

lemma mem_tokens_placeholders_succ (count : Nat) (t : Token) :
    t ∈ tokens (m.placeholders (count + 1)) ↔
      (∃ i < count + 1, t = .named (m.item i)) ∨
        0 < count ∧ (t = .mark ',' ∨ t = .mark ' ') := by
  rw [placeholders_succ, mem_tokens_names]
  · simp
  · intro x hx
    obtain ⟨i, -, rfl⟩ := List.mem_map.mp hx
    exact ⟨m.item_ne_nil i, m.isIdentifierTail_of_mem_item i⟩

lemma mem_namesIn_placeholders_iff (count : Nat) (x : List Char) :
    x ∈ namesIn (m.placeholders count) ↔ ∃ i < count, x = m.item i := by
  rw [mem_namesIn_iff]
  cases count with
  | zero => simp [tokens_placeholders_zero]
  | succ count =>
    rw [mem_tokens_placeholders_succ]
    simp

lemma isDeclare_of_mem_tokens_placeholders (count : Nat) :
    ∀ t ∈ tokens (m.placeholders count), t.isDeclare = false := by
  intro t ht
  cases count with
  | zero =>
    rw [tokens_placeholders_zero, List.mem_singleton] at ht
    subst ht
    decide
  | succ count =>
    rcases (mem_tokens_placeholders_succ m count t).mp ht with ⟨i, -, rfl⟩ | ⟨-, rfl | rfl⟩ <;> rfl

lemma brace_notMem_placeholders (count : Nat) : '\x7b' ∉ m.placeholders count := by
  intro h
  have ht := mark_mem_tokens (by decide) h
  cases count with
  | zero => simp [tokens_placeholders_zero] at ht
  | succ count => simp [mem_tokens_placeholders_succ] at ht

end Marker

namespace Template

structure Fits (t : Template) (names : List (List Char)) (markers : List Marker) : Prop where
  marked : ∀ m ∈ t.markers, m ∈ markers
  listed : ∀ m ∈ markers, m ∈ t.markers
  once : markers.Nodup
  unbraced : ∀ code ∈ t.codes, '\x7b' ∉ code
  known : ∀ code ∈ t.codes, ∀ x ∈ namesIn code, x ∈ names ∨ x ∈ declared t.code
  used : ∀ x ∈ names, ∃ code ∈ t.codes, x ∈ namesIn code
  closed : Place.outside.after (tokens t.code) = .outside
  undeclared : ∀ code ∈ t.codes.tail, ∀ u ∈ tokens code, u.isDeclare = false
  distinct : ((names ++ declared t.code).map lower).Nodup
  plain : ∀ x ∈ names ++ declared t.code, '_' ∉ lower x

instance (t : Template) (names : List (List Char)) (markers : List Marker) :
    Decidable (t.Fits names markers) :=
  decidable_of_iff
    (((∀ m ∈ t.markers, m ∈ markers) ∧ (∀ m ∈ markers, m ∈ t.markers) ∧ markers.Nodup ∧
      (∀ code ∈ t.codes, '\x7b' ∉ code) ∧
      (∀ code ∈ t.codes, ∀ x ∈ namesIn code, x ∈ names ∨ x ∈ declared t.code)) ∧
      (∀ x ∈ names, ∃ code ∈ t.codes, x ∈ namesIn code) ∧
      Place.outside.after (tokens t.code) = .outside ∧
      (∀ code ∈ t.codes.tail, ∀ u ∈ tokens code, u.isDeclare = false) ∧
      ((names ++ declared t.code).map lower).Nodup ∧
      ∀ x ∈ names ++ declared t.code, '_' ∉ lower x)
    ⟨fun ⟨⟨h₁, h₂, h₃, h₄, h₅⟩, h₆, h₇, h₈, h₉, h₁₀⟩ => ⟨h₁, h₂, h₃, h₄, h₅, h₆, h₇, h₈, h₉, h₁₀⟩,
      fun h => ⟨⟨h.marked, h.listed, h.once, h.unbraced, h.known⟩, h.used, h.closed, h.undeclared,
        h.distinct, h.plain⟩⟩

variable (v : Marker → List Char)

lemma tokens_render_hole (code : List Char) (m : Marker) (rest : Template) :
    tokens ((hole code m rest).render v) =
      tokens code ++ .mark '(' :: (tokens (v m) ++ .mark ')' :: tokens (rest.render v)) := by
  rw [render, tokens_append_break (c := '(') _ (by decide),
    tokens_append_break (c := ')') _ (by decide)]

lemma mem_tokens_render_iff (t : Template) (u : Token) :
    u ∈ tokens (t.render v) ↔ (∃ code ∈ t.codes, u ∈ tokens code) ∨
      (∃ m ∈ t.markers, u ∈ tokens (v m)) ∨
        t.markers ≠ [] ∧ (u = .mark '(' ∨ u = .mark ')') := by
  induction t with
  | last code => simp [render, codes, markers]
  | hole code m rest ih =>
    rw [tokens_render_hole]
    simp only [List.mem_append, List.mem_cons, ih, codes, markers, exists_eq_or_imp]
    grind

lemma mem_namesIn_render_iff (t : Template) (x : List Char) :
    x ∈ namesIn (t.render v) ↔
      (∃ code ∈ t.codes, x ∈ namesIn code) ∨ ∃ m ∈ t.markers, x ∈ namesIn (v m) := by
  simp [mem_namesIn_iff, mem_tokens_render_iff]

lemma render_congr {v v' : Marker → List Char} (t : Template) (h : ∀ m ∈ t.markers, v m = v' m) :
    t.render v = t.render v' := by
  induction t with
  | last code => rfl
  | hole code m rest ih =>
    rw [render, render, h m (by simp [markers]), ih fun m' hm' => h m' (List.mem_cons_of_mem m hm')]

lemma brace_notMem_render (t : Template) (hv : ∀ m, '\x7b' ∉ v m)
    (hcodes : ∀ code ∈ t.codes, '\x7b' ∉ code) : '\x7b' ∉ t.render v := by
  induction t with
  | last code => exact hcodes code (by simp [codes])
  | hole code m rest ih =>
    have hcode : '\x7b' ∉ code := hcodes code (by simp [codes])
    have hrest := ih fun code hc => hcodes code (List.mem_cons_of_mem _ hc)
    simp [render, hcode, hv m, hrest]

lemma isDeclare_of_mem_tokens_render (t : Template)
    (hv : ∀ m, ∀ u ∈ tokens (v m), u.isDeclare = false)
    (hcodes : ∀ code ∈ t.codes, ∀ u ∈ tokens code, u.isDeclare = false) :
    ∀ u ∈ tokens (t.render v), u.isDeclare = false := by
  intro u hu
  rcases (mem_tokens_render_iff v t u).mp hu with ⟨code, hcode, hu⟩ | ⟨m, -, hu⟩ | ⟨-, rfl | rfl⟩
  · exact hcodes code hcode u hu
  · exact hv m u hu
  · rfl
  · rfl

lemma declared_render (t : Template) (hv : ∀ m, ∀ u ∈ tokens (v m), u.isDeclare = false)
    (hclosed : Place.outside.after (tokens t.code) = .outside)
    (hcodes : ∀ code ∈ t.codes.tail, ∀ u ∈ tokens code, u.isDeclare = false) :
    declared (t.render v) = declared t.code := by
  cases t with
  | last code => rfl
  | hole code m rest =>
    apply declared_append_break (by decide) hclosed
    intro u hu
    rw [tokens_append_break (c := ')') _ (by decide), List.mem_append, List.mem_cons] at hu
    rcases hu with hu | rfl | hu
    · exact hv m u hu
    · rfl
    · exact isDeclare_of_mem_tokens_render v rest hv hcodes u hu

end Template

structure Form where
  text : String
  names : List String
  markers : List Marker

namespace Form

def template (f : Form) : Template :=
  Template.ofChars f.text.toList

def Fits (f : Form) : Prop :=
  f.template.Fits (f.names.map String.toList) f.markers

def fill (f : Form) (fixed : Bindings) (values : Marker → List Scalar) : Statement :=
  f.markers.foldl (fun s m => s.bindList m.name m.stem (values m)) { text := f.text, params := fixed }

def textFor (f : Form) (count : Marker → Nat) : String :=
  String.ofList (f.markers.foldl
    (fun text m => replaceAll m.mark (m.placeholders (count m)) text) f.text.toList)

def items (m : Marker) (values : List Scalar) : Bindings :=
  values.zipIdx.map fun v => (Statement.itemName m.stem v.2, v.1)

variable {f : Form} {fixed : Bindings} {values : Marker → List Scalar}

lemma text_foldl_bindList (markers : List Marker) (s : Statement) :
    (markers.foldl (fun s m => s.bindList m.name m.stem (values m)) s).text =
      String.ofList (markers.foldl
        (fun text m => replaceAll m.mark (m.placeholders (values m).length) text) s.text.toList) := by
  induction markers generalizing s with
  | nil => simp
  | cons m markers ih =>
    rw [List.foldl_cons, ih, List.foldl_cons, Statement.bindList, String.toList_ofList]
    rfl

lemma params_foldl_bindList (markers : List Marker) (s : Statement) :
    (markers.foldl (fun s m => s.bindList m.name m.stem (values m)) s).params =
      s.params ++ markers.flatMap fun m => items m (values m) := by
  induction markers generalizing s with
  | nil => simp
  | cons m markers ih =>
    rw [List.foldl_cons, ih, List.flatMap_cons, ← List.append_assoc]
    rfl

lemma text_fill : (f.fill fixed values).text = f.textFor fun m => (values m).length :=
  text_foldl_bindList f.markers _

lemma params_fill :
    (f.fill fixed values).params = fixed ++ f.markers.flatMap fun m => items m (values m) :=
  params_foldl_bindList f.markers _

lemma foldl_replaceAll_render (t : Template) (hcodes : ∀ code ∈ t.codes, '\x7b' ∉ code)
    (count : Marker → Nat) (markers done : List Marker) :
    markers.foldl (fun text m => replaceAll m.mark (m.placeholders (count m)) text)
        (t.render (Template.filled (fun m => m.placeholders (count m)) done)) =
      t.render (Template.filled (fun m => m.placeholders (count m)) (markers.reverse ++ done)) := by
  -- the marks of `done` have been replaced already, and each step replaces those of one more list
  induction markers generalizing done with
  | nil => rfl
  | cons m markers ih =>
    have hstep := Template.replaceAll_render m
      (fun m => m.brace_notMem_placeholders (count m)) done t hcodes
    rw [List.foldl_cons, hstep, ih, List.reverse_cons, List.append_assoc]
    rfl

lemma toList_textFor (h : f.Fits) (count : Marker → Nat) :
    (f.textFor count).toList = f.template.render fun m => m.placeholders (count m) := by
  have hmarked : f.template.render (Template.filled (fun m => m.placeholders (count m)) []) =
      f.text.toList := by
    rw [← Template.render_ofChars f.text.toList]
    apply Template.render_congr
    intro m _
    simp [Template.filled]
  rw [textFor, String.toList_ofList, ← hmarked, foldl_replaceAll_render _ h.unbraced]
  apply Template.render_congr
  intro m hm
  rw [Template.filled, if_pos (by simpa using h.marked m hm)]

lemma names_items (m : Marker) (values : List Scalar) :
    (items m values).map (fun p => p.1.toList) = (List.range values.length).map m.item := by
  rw [items, List.map_map, List.range_eq_range', ← List.zipIdx_map_snd 0 values, List.map_map]
  rfl

lemma names_fill (hfixed : fixed.map Prod.fst = f.names) :
    (f.fill fixed values).params.map (fun p => p.1.toList) =
      f.names.map String.toList ++
        f.markers.flatMap fun m => (List.range (values m).length).map m.item := by
  rw [params_fill, List.map_append, ← hfixed, List.map_map, List.map_flatMap]
  simp only [names_items]
  rfl

variable (h : f.Fits) (hfixed : fixed.map Prod.fst = f.names)

include h in
lemma toList_text_fill : (f.fill fixed values).text.toList =
    f.template.render fun m => m.placeholders (values m).length := by
  rw [text_fill, toList_textFor h]

include h in
lemma declared_fill :
    declared (f.fill fixed values).text.toList = declared f.template.code := by
  rw [toList_text_fill h]
  apply Template.declared_render _ _ _ h.closed h.undeclared
  intro m
  exact m.isDeclare_of_mem_tokens_placeholders _

include h in
lemma nodup_items (count : Marker → Nat) :
    (f.markers.flatMap fun m => (List.range (count m)).map m.item).Nodup := by
  rw [List.nodup_flatMap]
  constructor
  · intro m _
    exact List.nodup_range.map fun i j hij => (Marker.item_inj hij).2
  · refine h.once.imp ?_
    intro m m' hne x hx hx'
    obtain ⟨i, -, rfl⟩ := List.mem_map.mp hx
    obtain ⟨j, -, hj⟩ := List.mem_map.mp hx'
    exact hne (Marker.item_inj hj).1.symm

lemma item_ne_lower (m : Marker) (i : Nat) {x : List Char} (hx : '_' ∉ lower x) :
    lower (m.item i) ≠ lower x := by
  intro heq
  apply hx
  rw [← heq, Marker.lower_item, Marker.item_eq]
  simp

include h in
lemma mem_namesIn_fill_iff (x : List Char) :
    x ∈ namesIn (f.fill fixed values).text.toList ↔
      (∃ code ∈ f.template.codes, x ∈ namesIn code) ∨
        ∃ m ∈ f.markers, ∃ i < (values m).length, x = m.item i := by
  rw [toList_text_fill h, Template.mem_namesIn_render_iff]
  simp only [Marker.mem_namesIn_placeholders_iff]
  constructor
  · rintro (hx | ⟨m, hm, hx⟩)
    · exact Or.inl hx
    · exact Or.inr ⟨m, h.marked m hm, hx⟩
  · rintro (hx | ⟨m, hm, hx⟩)
    · exact Or.inl hx
    · exact Or.inr ⟨m, h.listed m hm, hx⟩

include hfixed in
lemma mem_names_fill_iff (x : List Char) :
    x ∈ (f.fill fixed values).params.map (fun p => p.1.toList) ↔
      x ∈ f.names.map String.toList ∨ ∃ m ∈ f.markers, ∃ i < (values m).length, x = m.item i := by
  rw [names_fill hfixed]
  simp [eq_comm]

include h hfixed in
lemma nodup_lower_names_fill :
    ((f.fill fixed values).params.map fun p => lower p.1.toList).Nodup := by
  have hitems : ∀ m, ((List.range (values m).length).map m.item).map lower =
      (List.range (values m).length).map m.item := by
    intro m
    rw [List.map_map]
    exact List.map_congr_left fun i _ => m.lower_item i
  have hlower : ((f.fill fixed values).params.map fun p => lower p.1.toList) =
      (f.names.map String.toList).map lower ++
        f.markers.flatMap fun m => (List.range (values m).length).map m.item := by
    have hnames := congrArg (List.map lower) (@names_fill f fixed values hfixed)
    rw [List.map_append, List.map_flatMap, List.map_map] at hnames
    simp only [hitems] at hnames
    exact hnames
  have hdistinct := h.distinct
  rw [List.map_append, List.nodup_append] at hdistinct
  rw [hlower, List.nodup_append]
  refine ⟨hdistinct.1, nodup_items h _, ?_⟩
  intro y hy x hx
  obtain ⟨name, hname, rfl⟩ := List.mem_map.mp hy
  obtain ⟨m, -, hm⟩ := List.mem_flatMap.mp hx
  obtain ⟨i, -, rfl⟩ := List.mem_map.mp hm
  rw [← m.lower_item]
  exact (item_ne_lower m i (h.plain name (List.mem_append_left _ hname))).symm

lemma mem_items_iff (m : Marker) (values : List Scalar) (p : String × Scalar) :
    p ∈ items m values ↔ ∃ i, values[i]? = some p.2 ∧ p.1 = Statement.itemName m.stem i := by
  rw [items, List.mem_map]
  constructor
  · rintro ⟨⟨v, i⟩, hv, rfl⟩
    exact ⟨i, List.mem_zipIdx_iff_getElem?.mp hv, rfl⟩
  · rintro ⟨i, hv, hname⟩
    exact ⟨(p.2, i), List.mem_zipIdx_iff_getElem?.mpr hv, Prod.ext hname.symm rfl⟩

include h hfixed in
lemma item_mem_params_fill_iff (m : Marker) (i : Nat) (v : Scalar) :
    (Statement.itemName m.stem i, v) ∈ (f.fill fixed values).params ↔
      m ∈ f.markers ∧ (values m)[i]? = some v := by
  rw [params_fill, List.mem_append, List.mem_flatMap]
  simp only [mem_items_iff]
  constructor
  · rintro (hp | ⟨m', hm', j, hv, hname⟩)
    · exfalso
      have hname : m.item i ∈ f.names.map String.toList := by
        rw [← hfixed]
        exact List.mem_map_of_mem (List.mem_map_of_mem hp)
      exact item_ne_lower m i (h.plain _ (List.mem_append_left _ hname)) rfl
    · obtain ⟨rfl, rfl⟩ := Marker.item_inj (congrArg String.toList hname)
      exact ⟨hm', hv⟩
  · rintro ⟨hm, hv⟩
    exact Or.inr ⟨m, hm, i, hv, rfl⟩

include h hfixed in
theorem wellFormed_fill : (f.fill fixed values).WellFormed where
  unmarked := by
    intro m hm
    have hbrace : '\x7b' ∈ m.mark := List.mem_cons_self
    refine Template.brace_notMem_render _ f.template ?_ h.unbraced
      (@toList_text_fill f fixed values h ▸ hm.subset hbrace)
    exact fun m => m.brace_notMem_placeholders _
  known := by
    intro x hx
    rw [mem_names_fill_iff hfixed, declared_fill h]
    rcases (mem_namesIn_fill_iff h x).mp hx with ⟨code, hcode, hx⟩ | hitem
    · exact (h.known code hcode x hx).imp Or.inl id
    · exact Or.inl (Or.inr hitem)
  used := by
    intro p hp
    have hx := (mem_names_fill_iff hfixed p.1.toList).mp (List.mem_map.mpr ⟨p, hp, rfl⟩)
    rw [mem_namesIn_fill_iff h]
    exact hx.imp (h.used _) id
  distinct := nodup_lower_names_fill h hfixed
  apart := by
    intro p hp x hx heq
    rw [declared_fill h] at hx
    rcases (mem_names_fill_iff hfixed p.1.toList).mp (List.mem_map.mpr ⟨p, hp, rfl⟩) with
      hname | ⟨m, -, i, -, hitem⟩
    · have hdistinct := h.distinct
      rw [List.map_append, List.nodup_append] at hdistinct
      exact hdistinct.2.2 _ (List.mem_map_of_mem hname) _ (List.mem_map_of_mem hx) heq
    · rw [hitem] at heq
      exact item_ne_lower m i (h.plain x (List.mem_append_right _ hx)) heq

end Form

end ErpGateway.Erp
