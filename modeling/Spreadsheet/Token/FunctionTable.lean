import Spreadsheet.Text.Case

/-!
The table of built-in functions: the number by which stored formulas call a function, its name,
and how many arguments it takes.
-/

namespace Spreadsheet

structure FunctionEntry where
  id : UInt16
  name : String
  minArgs : Nat
  maxArgs : Nat
  /-- The result may change though no argument did. -/
  volatile : Bool
  deriving DecidableEq, Repr, Inhabited

/-- Only such a function can be called without saying how many arguments there are. -/
def FunctionEntry.hasFixedArity (f : FunctionEntry) : Bool := f.minArgs = f.maxArgs

namespace FunctionTable

/-- The number of calls whose first argument names the function. -/
def userDefined : UInt16 := 255

def sum : UInt16 := 4

/-- The functions by ascending number. -/
def entries : List FunctionEntry :=
  [⟨0, "COUNT", 0, 30, false⟩, ⟨1, "IF", 2, 3, false⟩, ⟨2, "ISNA", 1, 1, false⟩,
   ⟨3, "ISERROR", 1, 1, false⟩, ⟨4, "SUM", 0, 30, false⟩, ⟨5, "AVERAGE", 1, 30, false⟩,
   ⟨6, "MIN", 1, 30, false⟩, ⟨7, "MAX", 1, 30, false⟩, ⟨8, "ROW", 0, 1, false⟩,
   ⟨9, "COLUMN", 0, 1, false⟩, ⟨10, "NA", 0, 0, false⟩, ⟨11, "NPV", 2, 30, false⟩,
   ⟨12, "STDEV", 1, 30, false⟩, ⟨13, "DOLLAR", 1, 2, false⟩, ⟨14, "FIXED", 1, 3, false⟩,
   ⟨15, "SIN", 1, 1, false⟩, ⟨16, "COS", 1, 1, false⟩, ⟨17, "TAN", 1, 1, false⟩,
   ⟨18, "ATAN", 1, 1, false⟩, ⟨19, "PI", 0, 0, false⟩, ⟨20, "SQRT", 1, 1, false⟩,
   ⟨21, "EXP", 1, 1, false⟩, ⟨22, "LN", 1, 1, false⟩, ⟨23, "LOG10", 1, 1, false⟩,
   ⟨24, "ABS", 1, 1, false⟩, ⟨25, "INT", 1, 1, false⟩, ⟨26, "SIGN", 1, 1, false⟩,
   ⟨27, "ROUND", 2, 2, false⟩, ⟨28, "LOOKUP", 2, 3, false⟩, ⟨29, "INDEX", 2, 4, false⟩,
   ⟨30, "REPT", 2, 2, false⟩, ⟨31, "MID", 3, 3, false⟩, ⟨32, "LEN", 1, 1, false⟩,
   ⟨33, "VALUE", 1, 1, false⟩, ⟨34, "TRUE", 0, 0, false⟩, ⟨35, "FALSE", 0, 0, false⟩,
   ⟨36, "AND", 1, 30, false⟩, ⟨37, "OR", 1, 30, false⟩, ⟨38, "NOT", 1, 1, false⟩,
   ⟨39, "MOD", 2, 2, false⟩, ⟨40, "DCOUNT", 3, 3, false⟩, ⟨41, "DSUM", 3, 3, false⟩,
   ⟨42, "DAVERAGE", 3, 3, false⟩, ⟨43, "DMIN", 3, 3, false⟩, ⟨44, "DMAX", 3, 3, false⟩,
   ⟨45, "DSTDEV", 3, 3, false⟩, ⟨46, "VAR", 1, 30, false⟩, ⟨47, "DVAR", 3, 3, false⟩,
   ⟨48, "TEXT", 2, 2, false⟩, ⟨49, "LINEST", 1, 4, false⟩, ⟨50, "TREND", 1, 4, false⟩,
   ⟨51, "LOGEST", 1, 4, false⟩, ⟨52, "GROWTH", 1, 4, false⟩, ⟨56, "PV", 3, 5, false⟩,
   ⟨57, "FV", 3, 5, false⟩, ⟨58, "NPER", 3, 5, false⟩, ⟨59, "PMT", 3, 5, false⟩,
   ⟨60, "RATE", 3, 6, false⟩, ⟨61, "MIRR", 3, 3, false⟩, ⟨62, "IRR", 1, 2, false⟩,
   ⟨63, "RAND", 0, 0, true⟩, ⟨64, "MATCH", 2, 3, false⟩, ⟨65, "DATE", 3, 3, false⟩,
   ⟨66, "TIME", 3, 3, false⟩, ⟨67, "DAY", 1, 1, false⟩, ⟨68, "MONTH", 1, 1, false⟩,
   ⟨69, "YEAR", 1, 1, false⟩, ⟨70, "WEEKDAY", 1, 2, false⟩, ⟨71, "HOUR", 1, 1, false⟩,
   ⟨72, "MINUTE", 1, 1, false⟩, ⟨73, "SECOND", 1, 1, false⟩, ⟨74, "NOW", 0, 0, true⟩,
   ⟨75, "AREAS", 1, 1, false⟩, ⟨76, "ROWS", 1, 1, false⟩, ⟨77, "COLUMNS", 1, 1, false⟩,
   ⟨78, "OFFSET", 3, 5, true⟩, ⟨82, "SEARCH", 2, 3, false⟩, ⟨83, "TRANSPOSE", 1, 1, false⟩,
   ⟨86, "TYPE", 1, 1, false⟩, ⟨97, "ATAN2", 2, 2, false⟩, ⟨98, "ASIN", 1, 1, false⟩,
   ⟨99, "ACOS", 1, 1, false⟩, ⟨100, "CHOOSE", 2, 30, false⟩, ⟨101, "HLOOKUP", 3, 4, false⟩,
   ⟨102, "VLOOKUP", 3, 4, false⟩, ⟨105, "ISREF", 1, 1, false⟩, ⟨109, "LOG", 1, 2, false⟩,
   ⟨111, "CHAR", 1, 1, false⟩, ⟨112, "LOWER", 1, 1, false⟩, ⟨113, "UPPER", 1, 1, false⟩,
   ⟨114, "PROPER", 1, 1, false⟩, ⟨115, "LEFT", 1, 2, false⟩, ⟨116, "RIGHT", 1, 2, false⟩,
   ⟨117, "EXACT", 2, 2, false⟩, ⟨118, "TRIM", 1, 1, false⟩, ⟨119, "REPLACE", 4, 4, false⟩,
   ⟨120, "SUBSTITUTE", 3, 4, false⟩, ⟨121, "CODE", 1, 1, false⟩, ⟨124, "FIND", 2, 3, false⟩,
   ⟨125, "CELL", 1, 2, true⟩, ⟨126, "ISERR", 1, 1, false⟩, ⟨127, "ISTEXT", 1, 1, false⟩,
   ⟨128, "ISNUMBER", 1, 1, false⟩, ⟨129, "ISBLANK", 1, 1, false⟩, ⟨130, "T", 1, 1, false⟩,
   ⟨131, "N", 1, 1, false⟩, ⟨140, "DATEVALUE", 1, 1, false⟩, ⟨141, "TIMEVALUE", 1, 1, false⟩,
   ⟨142, "SLN", 3, 3, false⟩, ⟨143, "SYD", 4, 4, false⟩, ⟨144, "DDB", 4, 5, false⟩,
   ⟨148, "INDIRECT", 1, 2, true⟩, ⟨162, "CLEAN", 1, 1, false⟩, ⟨163, "MDETERM", 1, 1, false⟩,
   ⟨164, "MINVERSE", 1, 1, false⟩, ⟨165, "MMULT", 2, 2, false⟩, ⟨167, "IPMT", 4, 6, false⟩,
   ⟨168, "PPMT", 4, 6, false⟩, ⟨169, "COUNTA", 0, 30, false⟩, ⟨183, "PRODUCT", 0, 30, false⟩,
   ⟨184, "FACT", 1, 1, false⟩, ⟨189, "DPRODUCT", 3, 3, false⟩, ⟨190, "ISNONTEXT", 1, 1, false⟩,
   ⟨193, "STDEVP", 1, 30, false⟩, ⟨194, "VARP", 1, 30, false⟩, ⟨195, "DSTDEVP", 3, 3, false⟩,
   ⟨196, "DVARP", 3, 3, false⟩, ⟨197, "TRUNC", 1, 2, false⟩, ⟨198, "ISLOGICAL", 1, 1, false⟩,
   ⟨199, "DCOUNTA", 3, 3, false⟩, ⟨212, "ROUNDUP", 2, 2, false⟩, ⟨213, "ROUNDDOWN", 2, 2, false⟩,
   ⟨216, "RANK", 2, 3, false⟩, ⟨219, "ADDRESS", 2, 5, false⟩, ⟨220, "DAYS360", 2, 3, false⟩,
   ⟨221, "TODAY", 0, 0, true⟩, ⟨222, "VDB", 5, 7, false⟩, ⟨227, "MEDIAN", 1, 30, false⟩,
   ⟨228, "SUMPRODUCT", 1, 30, false⟩, ⟨229, "SINH", 1, 1, false⟩, ⟨230, "COSH", 1, 1, false⟩,
   ⟨231, "TANH", 1, 1, false⟩, ⟨232, "ASINH", 1, 1, false⟩, ⟨233, "ACOSH", 1, 1, false⟩,
   ⟨234, "ATANH", 1, 1, false⟩, ⟨235, "DGET", 3, 3, false⟩, ⟨244, "INFO", 1, 1, true⟩,
   ⟨247, "DB", 4, 5, false⟩, ⟨252, "FREQUENCY", 2, 2, false⟩, ⟨255, "USER", 1, 30, false⟩,
   ⟨261, "ERROR.TYPE", 1, 1, false⟩, ⟨269, "AVEDEV", 1, 30, false⟩, ⟨276, "COMBIN", 2, 2, false⟩,
   ⟨279, "EVEN", 1, 1, false⟩, ⟨285, "FLOOR", 2, 2, false⟩, ⟨288, "CEILING", 2, 2, false⟩,
   ⟨298, "ODD", 1, 1, false⟩, ⟨299, "PERMUT", 2, 2, false⟩, ⟨300, "POISSON", 3, 3, false⟩,
   ⟨303, "SUMXMY2", 2, 2, false⟩, ⟨304, "SUMX2MY2", 2, 2, false⟩, ⟨305, "SUMX2PY2", 2, 2, false⟩,
   ⟨307, "CORREL", 2, 2, false⟩, ⟨308, "COVAR", 2, 2, false⟩, ⟨309, "FORECAST", 3, 3, false⟩,
   ⟨311, "INTERCEPT", 2, 2, false⟩, ⟨312, "PEARSON", 2, 2, false⟩, ⟨313, "RSQ", 2, 2, false⟩,
   ⟨315, "SLOPE", 2, 2, false⟩, ⟨318, "DEVSQ", 1, 30, false⟩, ⟨319, "GEOMEAN", 1, 30, false⟩,
   ⟨320, "HARMEAN", 1, 30, false⟩, ⟨321, "SUMSQ", 0, 30, false⟩, ⟨322, "KURT", 1, 30, false⟩,
   ⟨323, "SKEW", 1, 30, false⟩, ⟨325, "LARGE", 2, 2, false⟩, ⟨326, "SMALL", 2, 2, false⟩,
   ⟨327, "QUARTILE", 2, 2, false⟩, ⟨328, "PERCENTILE", 2, 2, false⟩, ⟨330, "MODE", 1, 30, false⟩,
   ⟨331, "TRIMMEAN", 2, 2, false⟩, ⟨336, "CONCATENATE", 0, 30, false⟩,
   ⟨337, "POWER", 2, 2, false⟩, ⟨342, "RADIANS", 1, 1, false⟩, ⟨343, "DEGREES", 1, 1, false⟩,
   ⟨344, "SUBTOTAL", 2, 30, false⟩, ⟨345, "SUMIF", 2, 3, false⟩, ⟨346, "COUNTIF", 2, 2, false⟩,
   ⟨347, "COUNTBLANK", 1, 1, false⟩, ⟨350, "ISPMT", 4, 4, false⟩, ⟨351, "DATEDIF", 3, 3, false⟩,
   ⟨354, "ROMAN", 1, 2, false⟩, ⟨358, "GETPIVOTDATA", 2, 30, false⟩,
   ⟨359, "HYPERLINK", 1, 2, false⟩, ⟨361, "AVERAGEA", 1, 30, false⟩, ⟨362, "MAXA", 1, 30, false⟩,
   ⟨363, "MINA", 1, 30, false⟩, ⟨364, "STDEVPA", 1, 30, false⟩, ⟨365, "VARPA", 1, 30, false⟩,
   ⟨366, "STDEVA", 1, 30, false⟩, ⟨367, "VARA", 1, 30, false⟩]

def lookup? (id : UInt16) : Option FunctionEntry := entries.find? (·.id == id)

def name? (id : UInt16) : Option String := (lookup? id).map (·.name)

/-- The number of a function by its name, in either case. -/
def idOfName? (name : String) : Option UInt16 :=
  (entries.find? fun f => Text.sameIgnoringAsciiCase f.name name).map (·.id)

/-- How many arguments a function takes, if it is known and always takes as many. -/
def fixedArity? (id : UInt16) : Option Nat :=
  ((lookup? id).filter (·.hasFixedArity)).map (·.minArgs)

end FunctionTable

end Spreadsheet
