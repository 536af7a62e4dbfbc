/-!
# Banners

A banner is the head of every table: groups of columns, each column with the equation of the
respondents it counts. `BannerPlan.columnList` is the row of columns, after a first one for everyone.
-/

namespace SurveyTables

/-- The equation of everyone. -/
def totalEquation : String := "TOTAL"

/-- A column of a table. -/
structure BannerColumn where
  id : String
  name : String
  equation : String
  group : Option String
  deriving DecidableEq, Repr

/-- Columns under a common heading. -/
structure BannerGroup where
  id : String
  name : String
  columns : List BannerColumn
  deriving DecidableEq, Repr

/-- The groups of columns of a set of tables. -/
structure BannerPlan where
  name : String
  groups : List BannerGroup
  deriving DecidableEq, Repr

/-- The column of everyone. -/
def BannerColumn.total : BannerColumn := ⟨"TOTAL", "Total", totalEquation, none⟩

def BannerGroup.columnList (g : BannerGroup) : List BannerColumn :=
  g.columns.map fun c => { c with group := some g.name }

def BannerPlan.columnList (b : BannerPlan) : List BannerColumn :=
  .total :: b.groups.flatMap BannerGroup.columnList

/-- The number of columns in the groups. -/
def BannerPlan.columnCount (b : BannerPlan) : Nat := (b.groups.flatMap BannerGroup.columns).length

theorem BannerPlan.length_columnList (b : BannerPlan) :
    b.columnList.length = b.columnCount + 1 := by
  have h : ∀ gs : List BannerGroup,
      (gs.flatMap BannerGroup.columnList).length = (gs.flatMap BannerGroup.columns).length := by
    intro gs
    induction gs with
    | nil => rfl
    | cons g gs ih => simp [BannerGroup.columnList, ih]
  simp only [columnList, columnCount, List.length_cons, h]

end SurveyTables
