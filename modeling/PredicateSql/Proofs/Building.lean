import PredicateSql.Proofs.Rendering

/-!
# Fragments as they are built

`Fragment.Built`: the fragments that the building operations make, from parts that were made in the
same way. Each operation keeps a value for each slot and text apart from text (`WellFormed`), and
from these it follows what a built fragment renders to and how appending numbers the slots.
-/

namespace PredicateSql

namespace Fragment

/-- What the operations make. Whatever is appended was made by them too. -/
inductive Built : Fragment → Prop
  | sql (text : String) (kind : Kind) : Built (.sql text kind)
  | parameter (v : Value) : Built (.parameter v)
  | withKind {f : Fragment} (kind : Kind) : Built f → Built (f.withKind kind)
  | pushSql {f : Fragment} (text : String) : Built f → Built (f.pushSql text)
  | pushParameter {f : Fragment} (v : Value) : Built f → Built (f.pushParameter v)
  | append {f g : Fragment} : Built f → Built g → Built (f.append g)
  | appendWrapped {f g : Fragment} : Built f → Built g → Built (f.appendWrapped g)

/-- Of two neighbours, one is a slot. -/
def Separated (ps : List Piece) : Prop :=
  ps.IsChain fun p q => p = .slot ∨ q = .slot

structure WellFormed (f : Fragment) : Prop where
  balanced : f.Balanced
  separated : Separated f.pieces

/-- The pieces with words in their slots, in order. There are no words to spare, and none is
missing. -/
def fill? : List Piece → List String → Option String
  | [], [] => some ""
  | .text sql :: ps, ws => (fill? ps ws).map (sql ++ ·)
  | .slot :: ps, w :: ws => (fill? ps ws).map (w ++ ·)
  | [], _ :: _ | .slot :: _, [] => none

/-- Rendering with `missing` in the place of `NULL` for slots beyond the values. -/
def renderPiecesOr (missing : Value) (style : Style) : Nat → List Piece → List Value → Statement
  | _, [], _ => ⟨"", []⟩
  | index, .text sql :: rest, values =>
    let s := renderPiecesOr missing style index rest values
    { s with text := sql ++ s.text }
  | index, .slot :: rest, values =>
    let placeholder := style.spell index
    let s := renderPiecesOr missing style (index + 1) rest values.tail
    ⟨placeholder ++ s.text, ⟨placeholder, values.headD missing⟩ :: s.parameters⟩

def renderOr (missing : Value) (f : Fragment) (style : Style) : Statement :=
  renderPiecesOr missing style 0 f.pieces f.values

/-- `h` is `f` with `g` behind it, between the texts `opening` and `closing`: the values follow each
other, and the slots of `g` are counted on from those of `f`. -/
structure Joins (f : Fragment) (opening : String) (g : Fragment) (closing : String)
    (h : Fragment) : Prop where
  kind : h.kind = f.kind
  values : h.values = f.values ++ g.values
  text : h.text = f.text ++ (opening ++ g.text ++ closing)
  render : ∀ style, ∃ middle,
    fill? g.pieces ((List.range' f.slotCount g.slotCount).map style.spell) = some middle ∧
    h.render style = ⟨(f.render style).text ++ (opening ++ middle ++ closing),
      (f.render style).parameters ++ g.values.mapIdx fun k v => ⟨style.spell (f.slotCount + k), v⟩⟩

-- ---------------------------------------------------------------------------
-- Text apart from text
-- ---------------------------------------------------------------------------

/-- Joining only ever merges the last piece of the one with the first of the other. -/
theorem join_cases (ps qs : List Piece) :
    (join ps qs = ps ++ qs ∧ ∀ p ∈ ps.getLast?, ∀ q ∈ qs.head?, p = .slot ∨ q = .slot) ∨
      ∃ before a b after, ps = before ++ [.text a] ∧ qs = .text b :: after ∧
        join ps qs = before ++ .text (a ++ b) :: after := by
  fun_induction join ps qs with
  | case1 qs => exact .inl ⟨rfl, by simp⟩
  | case2 a b qs => exact .inr ⟨[], a, b, qs, rfl, rfl, rfl⟩
  | case3 p ps qs hp ih =>
    cases ps with
    | nil =>
      refine .inl ⟨rfl, ?_⟩
      rintro p' hp' q hq
      obtain rfl : p = p' := by simpa using hp'
      cases qs with
      | nil => cases hq
      | cons q' qs =>
        obtain rfl : q' = q := by simpa using hq
        cases p with
        | slot => exact .inl rfl
        | text a =>
          cases q' with
          | slot => exact .inr rfl
          | text b => exact absurd rfl (hp a b qs rfl rfl)
    | cons p' ps =>
      rcases ih with ⟨hjoin, hends⟩ | ⟨before, a, b, after, hps, hqs, hjoin⟩
      · exact .inl ⟨by rw [hjoin]; rfl, by simpa using hends⟩
      · exact .inr ⟨p :: before, a, b, after, by rw [hps]; rfl, hqs, by rw [hjoin]; rfl⟩

theorem Separated.join {ps qs : List Piece} (hps : Separated ps) (hqs : Separated qs) :
    Separated (join ps qs) := by
  unfold Separated at *
  rcases join_cases ps qs with ⟨hjoin, hends⟩ | ⟨before, a, b, after, rfl, rfl, hjoin⟩
  · rw [hjoin]
    exact List.isChain_append.2 ⟨hps, hqs, hends⟩
  · -- The merged text has the neighbours of the two texts.
    rw [hjoin]
    rw [List.isChain_append] at hps ⊢
    refine ⟨hps.1, ?_, ?_⟩
    · cases after with
      | nil => exact .singleton _
      | cons q after =>
        rw [List.isChain_cons_cons] at hqs ⊢
        exact ⟨.inr (by simpa using hqs.1), hqs.2⟩
    · intro p hp q hq
      obtain rfl : .text (a ++ b) = q := by simpa using hq
      exact .inl (by simpa using hps.2.2 p hp (.text a) rfl)

-- ---------------------------------------------------------------------------
-- What the operations keep
-- ---------------------------------------------------------------------------

namespace WellFormed

variable {f g : Fragment}

theorem slotCount_eq (hf : f.WellFormed) : f.slotCount = f.values.length :=
  hf.balanced

theorem sql (text : String) (kind : Kind) : (Fragment.sql text kind).WellFormed where
  balanced := by simp [Balanced]
  separated := .singleton _

theorem parameter (v : Value) : (Fragment.parameter v).WellFormed where
  balanced := by simp [Balanced]
  separated := .singleton _

theorem withKind (hf : f.WellFormed) (kind : Kind) : (f.withKind kind).WellFormed where
  balanced := hf.balanced
  separated := hf.separated

theorem append (hf : f.WellFormed) (hg : g.WellFormed) : (f.append g).WellFormed where
  balanced := by simp [Balanced, hf.slotCount_eq, hg.slotCount_eq]
  separated := hf.separated.join hg.separated

theorem pushSql (hf : f.WellFormed) (text : String) : (f.pushSql text).WellFormed where
  balanced := by simp [Balanced, hf.slotCount_eq]
  separated := hf.separated.join (.singleton _)

theorem pushParameter (hf : f.WellFormed) (v : Value) : (f.pushParameter v).WellFormed :=
  hf.append (parameter v)

theorem appendWrapped (hf : f.WellFormed) (hg : g.WellFormed) : (f.appendWrapped g).WellFormed :=
  ((hf.pushSql "(").append hg).pushSql ")"

end WellFormed

theorem Built.wellFormed {f : Fragment} (h : Built f) : f.WellFormed := by
  induction h with
  | sql text kind => exact .sql text kind
  | parameter v => exact .parameter v
  | withKind kind _ ih => exact ih.withKind kind
  | pushSql text _ ih => exact ih.pushSql text
  | pushParameter v _ ih => exact ih.pushParameter v
  | append _ _ ihf ihg => exact ihf.append ihg
  | appendWrapped _ _ ihf ihg => exact ihf.appendWrapped ihg

-- ---------------------------------------------------------------------------
-- What is rendered
-- ---------------------------------------------------------------------------

variable (style : Style) (index : Nat)

theorem parameters_eq_mapIdx (vs : List Value) :
    style.parameters index vs = vs.mapIdx fun k v => ⟨style.spell (index + k), v⟩ := by
  refine List.ext_getElem? fun k => ?_
  rw [Style.getElem?_parameters, List.getElem?_mapIdx]

theorem placeholders_parameters (vs : List Value) :
    (style.parameters index vs).map (·.placeholder) =
      (List.range' index vs.length).map style.spell := by
  induction vs generalizing index with
  | nil => rfl
  | cons v vs ih => simp [Style.parameters, ih, List.range'_succ]

theorem fill?_spell (ps : List Piece) :
    fill? ps ((List.range' index (ps.count .slot)).map style.spell) =
      some (piecesText style index ps) := by
  induction ps generalizing index with
  | nil => rfl
  | cons p ps ih =>
    cases p with
    | text sql => simp [fill?, ih, piecesText]
    | slot => simp [fill?, ih, piecesText, List.range'_succ]

theorem piecesText_question (ps : List Piece) :
    piecesText .question index ps = piecesText .question 0 ps := by
  induction ps generalizing index with
  | nil => rfl
  | cons p ps ih =>
    cases p with
    | text sql => simp [piecesText, ih index]
    | slot => simp [piecesText, ih (index + 1), ih 1, Style.spell]

theorem renderPiecesOr_null (ps : List Piece) (vs : List Value) :
    renderPiecesOr .null style index ps vs = renderPieces style index ps vs := by
  induction ps generalizing index vs with
  | nil => rfl
  | cons p ps ih => cases p <;> simp [renderPiecesOr, renderPieces, ih]

theorem renderPiecesOr_congr (missing missing' : Value) (ps : List Piece) (vs : List Value)
    (h : ps.count .slot = vs.length) :
    renderPiecesOr missing style index ps vs = renderPiecesOr missing' style index ps vs := by
  induction ps generalizing index vs with
  | nil => rfl
  | cons p ps ih =>
    cases p with
    | text sql => rw [renderPiecesOr, renderPiecesOr, ih index vs (by simpa using h)]
    | slot =>
      cases vs with
      | nil => simp at h
      | cons v vs =>
        rw [renderPiecesOr, renderPiecesOr, List.tail_cons, ih (index + 1) vs (by simpa using h)]
        rfl

namespace WellFormed

variable {f g h : Fragment} {style : Style}

theorem parameters_render (hf : f.WellFormed) :
    (f.render style).parameters = f.values.mapIdx fun k v => ⟨style.spell k, v⟩ := by
  simp [render_of_balanced style f hf.balanced, parameters_eq_mapIdx]

theorem fill?_render (hf : f.WellFormed) :
    fill? f.pieces ((f.render style).parameters.map (·.placeholder)) =
      some (f.render style).text := by
  rw [render_of_balanced style f hf.balanced, placeholders_parameters, ← hf.slotCount_eq]
  exact fill?_spell style 0 f.pieces

theorem renderOr_eq (hf : f.WellFormed) (missing : Value) :
    f.renderOr missing style = f.render style :=
  calc f.renderOr missing style = f.renderOr .null style :=
        renderPiecesOr_congr style 0 missing .null f.pieces f.values hf.balanced
    _ = f.render style := renderPiecesOr_null style 0 f.pieces f.values

theorem text_eq (hf : f.WellFormed) (index : Nat) : f.text = f.textFrom .question index := by
  rw [text, render_of_balanced .question f hf.balanced]
  exact (piecesText_question index f.pieces).symm

theorem joins {opening closing : String} (hf : f.WellFormed) (hg : g.WellFormed) (hh : h.WellFormed)
    (hkind : h.kind = f.kind) (hvalues : h.values = f.values ++ g.values)
    (htext : ∀ style, h.textFrom style 0 =
      f.textFrom style 0 ++ (opening ++ g.textFrom style f.slotCount ++ closing)) :
    Joins f opening g closing h where
  kind := hkind
  values := hvalues
  text := by rw [hh.text_eq 0, hf.text_eq 0, hg.text_eq f.slotCount, htext]
  render style := by
    refine ⟨g.textFrom style f.slotCount, fill?_spell style f.slotCount g.pieces, ?_⟩
    simp [render_of_balanced style h hh.balanced, render_of_balanced style f hf.balanced, htext,
      hvalues, parameters_eq_mapIdx, List.mapIdx_append, hf.slotCount_eq, Nat.add_comm]

theorem joins_append (hf : f.WellFormed) (hg : g.WellFormed) : Joins f "" g "" (f.append g) :=
  joins hf hg (hf.append hg) rfl rfl fun style => by simp

theorem joins_appendWrapped (hf : f.WellFormed) (hg : g.WellFormed) :
    Joins f "(" g ")" (f.appendWrapped g) :=
  joins hf hg (hf.appendWrapped hg) rfl rfl fun style => by
    simp [Fragment.appendWrapped, String.append_assoc]

end WellFormed

/-- A built fragment has a value for each slot and no text beside text. In every style its
parameters are its values in order, spelled as the slots they are for, and its text is that of its
pieces with these spellings in the slots; nothing ever stands for a missing value. Appending keeps
the kind, puts the values and texts together, with parentheses if so asked, and counts the slots
on. -/
theorem Built.render_fills {f : Fragment} (hf : Built f) :
    f.slotCount = f.values.length ∧ Separated f.pieces ∧
    (∀ style,
      (f.render style).parameters = f.values.mapIdx (fun k v => ⟨style.spell k, v⟩) ∧
      fill? f.pieces ((f.render style).parameters.map (·.placeholder)) =
        some (f.render style).text ∧
      ∀ missing, f.renderOr missing style = f.render style) ∧
    ∀ g, Built g → Joins f "" g "" (f.append g) ∧ Joins f "(" g ")" (f.appendWrapped g) := by
  have hwf := hf.wellFormed
  refine ⟨hwf.slotCount_eq, hwf.separated, fun style => ?_, fun g hg => ?_⟩
  · exact ⟨hwf.parameters_render, hwf.fill?_render, hwf.renderOr_eq⟩
  · exact ⟨hwf.joins_append hg.wellFormed, hwf.joins_appendWrapped hg.wellFormed⟩

theorem Built.render_fills_wrapped :
    let f := ((Fragment.sql "a > " .comparison).pushParameter (.int32 2)).pushSql " AND "
    let g := (Fragment.sql "b = " .comparison).pushParameter (.string "4")
    (f.appendWrapped g).render .numbered =
      ⟨"a > $1 AND (b = $2)", [⟨"$1", .int32 2⟩, ⟨"$2", .string "4"⟩]⟩ := by
  intro f g
  have hf : Built f := .pushSql _ (.pushParameter _ (.sql _ _))
  have hg : Built g := .pushParameter _ (.sql _ _)
  obtain ⟨-, -, -, happend⟩ := hf.render_fills
  obtain ⟨middle, hmiddle, hrender⟩ := (happend g hg).2.render .numbered
  obtain rfl : "b = $2" = middle := by
    have hfill : fill? g.pieces ((List.range' f.slotCount g.slotCount).map Style.numbered.spell) =
        some "b = $2" := by decide +kernel
    exact Option.some.inj (hfill.symm.trans hmiddle)
  rw [hrender]
  decide +kernel

end Fragment

end PredicateSql
