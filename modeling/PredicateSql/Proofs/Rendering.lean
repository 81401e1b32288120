import Mathlib
import PredicateSql.Fragment

/-!
# Rendering by parts

The text of a fragment that is built from others is theirs, one after the other, with the slots
counted on from part to part. `render_of_balanced`: where there is a value for each slot, the
parameters are the values in order, each with the spelling of its slot.
-/

namespace PredicateSql

/-- The parameters that values make, the first of them for the slot at `index`. -/
def Style.parameters (style : Style) : Nat → List Value → List Parameter
  | _, [] => []
  | index, v :: vs => ⟨style.spell index, v⟩ :: style.parameters (index + 1) vs

theorem Style.getElem?_parameters (style : Style) (index k : Nat) (vs : List Value) :
    (style.parameters index vs)[k]? = vs[k]?.map fun v => ⟨style.spell (index + k), v⟩ := by
  induction vs generalizing index k with
  | nil => simp [parameters]
  | cons v vs ih =>
    cases k with
    | zero => simp [parameters]
    | succ k => simp [parameters, ih, Nat.add_assoc, Nat.add_comm 1 k]

@[simp] theorem Style.length_parameters (style : Style) (index : Nat) (vs : List Value) :
    (style.parameters index vs).length = vs.length := by
  induction vs generalizing index with
  | nil => rfl
  | cons v vs ih => simp [parameters, ih]

@[simp] theorem Style.values_parameters (style : Style) (index : Nat) (vs : List Value) :
    (style.parameters index vs).map (·.value) = vs := by
  induction vs generalizing index with
  | nil => rfl
  | cons v vs ih => simp [parameters, ih]

namespace Fragment

variable (style : Style) (index : Nat)

def piecesText : Nat → List Piece → String
  | _, [] => ""
  | index, .text sql :: rest => sql ++ piecesText index rest
  | index, .slot :: rest => style.spell index ++ piecesText (index + 1) rest

def textFrom (f : Fragment) : String :=
  piecesText style index f.pieces

def Balanced (f : Fragment) : Prop :=
  f.slotCount = f.values.length

-- ---------------------------------------------------------------------------
-- Pieces
-- ---------------------------------------------------------------------------

theorem count_join (ps qs : List Piece) :
    (join ps qs).count .slot = ps.count .slot + qs.count .slot := by
  fun_induction join ps qs with
  | case1 qs => simp
  | case2 a b qs => simp
  | case3 p ps qs _ ih => simp only [List.count_cons, ih]; omega

theorem piecesText_join (ps qs : List Piece) :
    piecesText style index (join ps qs) =
      piecesText style index ps ++ piecesText style (index + ps.count .slot) qs := by
  induction ps, qs using join.induct generalizing index with
  | case1 qs => simp [join, piecesText]
  | case2 a b qs => simp [join, piecesText, String.append_assoc]
  | case3 p ps qs hp ih =>
    rw [join]
    · cases p with
      | text sql => simp [piecesText, ih, String.append_assoc]
      | slot => simp [piecesText, ih, String.append_assoc, Nat.add_assoc, Nat.add_comm 1]
    · exact hp

theorem join_cons {ps : List Piece} (p : Piece) (qs : List Piece) (h : ps ≠ []) :
    join (p :: ps) qs = p :: join ps qs := by
  cases ps with
  | nil => exact absurd rfl h
  | cons p' ps => simp [join]

theorem join_ne_nil {ps : List Piece} (qs : List Piece) (h : ps ≠ []) : join ps qs ≠ [] := by
  fun_cases join ps qs <;> simp_all

theorem join_text_text (x y : String) (ps qs : List Piece) :
    join [.text x] (join (.text y :: ps) qs) = join (.text (x ++ y) :: ps) qs := by
  cases ps with
  | nil =>
    cases qs with
    | nil => rfl
    | cons q qs => cases q <;> simp [join, String.append_assoc]
  | cons p ps => simp [join]

theorem join_assoc (ps qs rs : List Piece) : join (join ps qs) rs = join ps (join qs rs) := by
  fun_induction join ps qs with
  | case1 qs => rfl
  | case2 x y qs => rw [join_text_text]
  | case3 p ps qs hp ih =>
    cases ps with
    | cons p' ps => rw [join_cons p rs (join_ne_nil qs (by simp)), ih, join_cons p _ (by simp)]
    | nil =>
      cases qs with
      | nil => rfl
      | cons q qs =>
        cases p with
        | slot => simp [join]
        | text x =>
          cases q with
          | slot => simp [join]
          | text y => exact absurd rfl (hp x y qs rfl rfl)

theorem renderPieces_eq (ps : List Piece) (vs : List Value) (h : ps.count .slot = vs.length) :
    renderPieces style index ps vs = ⟨piecesText style index ps, style.parameters index vs⟩ := by
  induction ps generalizing index vs with
  | nil =>
    cases vs with
    | nil => rfl
    | cons v vs => simp at h
  | cons p ps ih =>
    cases p with
    | text sql =>
      rw [renderPieces, ih index vs (by simpa using h)]
      rfl
    | slot =>
      cases vs with
      | nil => simp at h
      | cons v vs =>
        rw [renderPieces, List.tail_cons, ih (index + 1) vs (by simpa using h)]
        rfl

theorem render_of_balanced (f : Fragment) (h : f.Balanced) :
    f.render style = ⟨f.textFrom style 0, style.parameters 0 f.values⟩ :=
  renderPieces_eq style 0 f.pieces f.values h

-- ---------------------------------------------------------------------------
-- Building fragments
-- ---------------------------------------------------------------------------

variable (f g : Fragment) (sql : String) (v : Value) (kind : Kind)

@[simp] theorem values_sql : (Fragment.sql sql kind).values = [] := rfl
@[simp] theorem values_parameter : (Fragment.parameter v).values = [v] := rfl
@[simp] theorem values_withKind : (f.withKind kind).values = f.values := rfl
@[simp] theorem values_pushSql : (f.pushSql sql).values = f.values := rfl
@[simp] theorem values_append : (f.append g).values = f.values ++ g.values := rfl

@[simp] theorem kind_sql : (Fragment.sql sql kind).kind = kind := rfl
@[simp] theorem kind_parameter : (Fragment.parameter v).kind = .parameter := rfl
@[simp] theorem kind_withKind : (f.withKind kind).kind = kind := rfl
@[simp] theorem kind_pushSql : (f.pushSql sql).kind = f.kind := rfl
@[simp] theorem kind_append : (f.append g).kind = f.kind := rfl

@[simp] theorem slotCount_sql : (Fragment.sql sql kind).slotCount = 0 := by
  simp [slotCount, Fragment.sql]

@[simp] theorem slotCount_parameter : (Fragment.parameter v).slotCount = 1 := by
  simp [slotCount, Fragment.parameter]

@[simp] theorem slotCount_withKind : (f.withKind kind).slotCount = f.slotCount := rfl

@[simp] theorem slotCount_pushSql : (f.pushSql sql).slotCount = f.slotCount := by
  simp [slotCount, pushSql, count_join]

@[simp] theorem slotCount_append : (f.append g).slotCount = f.slotCount + g.slotCount := by
  simp [slotCount, append, count_join]

@[simp] theorem textFrom_sql : (Fragment.sql sql kind).textFrom style index = sql := by
  simp [textFrom, Fragment.sql, piecesText]

@[simp] theorem textFrom_parameter :
    (Fragment.parameter v).textFrom style index = style.spell index := by
  simp [textFrom, Fragment.parameter, piecesText]

@[simp] theorem textFrom_withKind :
    (f.withKind kind).textFrom style index = f.textFrom style index := rfl

@[simp] theorem textFrom_pushSql :
    (f.pushSql sql).textFrom style index = f.textFrom style index ++ sql := by
  simp [textFrom, pushSql, piecesText_join, piecesText]

@[simp] theorem textFrom_append :
    (f.append g).textFrom style index =
      f.textFrom style index ++ g.textFrom style (index + f.slotCount) := by
  simp [textFrom, append, piecesText_join, slotCount]

-- ---------------------------------------------------------------------------
-- Parentheses
-- ---------------------------------------------------------------------------

def wrapped : Fragment :=
  (Fragment.sql "" f.kind).appendWrapped f

theorem appendWrapped_eq : f.appendWrapped g = f.append g.wrapped := by
  simp [wrapped, appendWrapped, append, pushSql, Fragment.sql, join, join_assoc]

@[simp] theorem values_wrapped : f.wrapped.values = f.values := by
  simp [wrapped, appendWrapped]

@[simp] theorem slotCount_wrapped : f.wrapped.slotCount = f.slotCount := by
  simp [wrapped, appendWrapped]

@[simp] theorem textFrom_wrapped :
    f.wrapped.textFrom style index = "(" ++ f.textFrom style index ++ ")" := by
  simp [wrapped, appendWrapped]

end Fragment

end PredicateSql
