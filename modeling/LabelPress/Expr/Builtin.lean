import LabelPress.Text.Case

/-!
# Functions of expressions

The closed list of the functions that an expression can call, their names, and the
catalogue that an editor shows.  Main statement: a name determines its function.
-/

namespace LabelPress

/-- A function that an expression can call. -/
inductive Builtin where
  /-- Upper case. -/
  | upper
  /-- Lower case. -/
  | lower
  /-- The beginning of a text. -/
  | clip
  /-- Texts one after the other. -/
  | concat
  /-- A text with a part replaced. -/
  | replace
  /-- The number of characters. -/
  | length
  /-- The date of rendering. -/
  | today
  /-- The date and time of rendering. -/
  | now
  /-- A date a number of days later. -/
  | addDays
  /-- A date a number of months later. -/
  | addMonths
  /-- A date in a chosen form. -/
  | formatDate
  /-- A serial number. -/
  | counter
  /-- A lot code. -/
  | lot
  /-- A number with fixed places. -/
  | round
  /-- A number with fixed places and a chosen decimal mark. -/
  | formatNumber
  /-- One of two texts by a condition. -/
  | choose
  /-- A test for the empty text. -/
  | isEmpty
  /-- A text or its substitute. -/
  | orDefault
deriving DecidableEq

namespace Builtin

/-- The name that a function is called by. -/
def name : Builtin → Text
  | .upper => "MAYUS".toList
  | .lower => "MINUS".toList
  | .clip => "RECORTAR".toList
  | .concat => "CONCAT".toList
  | .replace => "REEMPLAZAR".toList
  | .length => "LARGO".toList
  | .today => "HOY".toList
  | .now => "AHORA".toList
  | .addDays => "SUMAR_DIAS".toList
  | .addMonths => "SUMAR_MESES".toList
  | .formatDate => "FORMATO_FECHA".toList
  | .counter => "CONTADOR".toList
  | .lot => "LOTE".toList
  | .round => "REDONDEAR".toList
  | .formatNumber => "FORMATO_NUM".toList
  | .choose => "SI".toList
  | .isEmpty => "VACIO".toList
  | .orDefault => "POR_DEFECTO".toList

/-- All functions. -/
def all : List Builtin :=
  [.upper, .lower, .clip, .concat, .replace, .length, .today, .now, .addDays, .addMonths,
    .formatDate, .counter, .lot, .round, .formatNumber, .choose, .isEmpty, .orDefault]

/-- The function with a name in any case. -/
def ofName? (name : Text) : Option Builtin :=
  all.find? fun builtin => builtin.name == Text.upper name

/-- Every function is in the list. -/
theorem mem_all (builtin : Builtin) : builtin ∈ all := by
  cases builtin <;> decide

/-- A function is found by its own name. -/
theorem ofName?_name (builtin : Builtin) :
    ofName? builtin.name = some builtin := by
  cases builtin <;> decide

/-- An entry of the catalogue: how a function is called and what it is for. -/
structure Entry where
  /-- The function. -/
  builtin : Builtin
  /-- A call of the function with example arguments. -/
  template : Text
  /-- What the function does, for the user of the editor. -/
  description : Text

/-- A heading of the catalogue with its entries. -/
structure Group where
  /-- The heading. -/
  title : Text
  /-- The entries below it. -/
  entries : List Entry

/-- An entry of the catalogue from plain strings. -/
def entry
    (builtin : Builtin)
    (template description : String) : Entry :=
  ⟨builtin, template.toList, description.toList⟩

/-- The catalogue of functions by headings. -/
def catalogue : List Group :=
  [⟨"Texto".toList,
      [entry .upper "MAYUS(valor)" "Convierte a mayúsculas",
        entry .lower "MINUS(valor)" "Convierte a minúsculas",
        entry .clip "RECORTAR(valor, largo)" "Recorta texto",
        entry .concat "CONCAT(v1, v2)" "Concatena valores",
        entry .replace "REEMPLAZAR(valor, buscar, reemplazo)" "Reemplaza texto",
        entry .length "LARGO(valor)" "Largo del texto"]⟩,
    ⟨"Fechas".toList,
      [entry .today "HOY()" "Fecha actual",
        entry .now "AHORA()" "Fecha y hora actual",
        entry .addDays "SUMAR_DIAS(HOY(), 30)" "Suma días a fecha",
        entry .addMonths "SUMAR_MESES(HOY(), 6)" "Suma meses a fecha",
        entry .formatDate "FORMATO_FECHA(valor, DD/MM/AAAA)" "Formatea fecha"]⟩,
    ⟨"Contadores".toList,
      [entry .counter "CONTADOR(1, 1, 4)" "Contador secuencial",
        entry .lot "LOTE(AAMM-####)" "Código de lote",
        entry .round "REDONDEAR(valor, 2)" "Redondea número",
        entry .formatNumber "FORMATO_NUM(valor, 2, \",\")" "Formatea número"]⟩,
    ⟨"Condicionales".toList,
      [entry .choose "SI(valor == X, si, no)" "Condición SI/SINO",
        entry .isEmpty "VACIO(valor)" "Verifica si está vacío",
        entry .orDefault "POR_DEFECTO(valor, alternativa)" "Valor por defecto"]⟩]

/-- The entries of the catalogue in the order of their headings. -/
def entries : List Entry :=
  catalogue.flatMap Group.entries

end Builtin
end LabelPress
