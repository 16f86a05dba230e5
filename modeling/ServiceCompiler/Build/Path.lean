import ServiceCompiler.Text.Split

/-! # Parameters of route paths -/

namespace ServiceCompiler.Build

/-- The names of the segments of the form `:name`, in order. -/
def colonParams (path : String) : List String :=
  (Text.splitChars '/' path.toList).filterMap fun
    | ':' :: c :: cs => some (String.ofList (c :: cs))
    | _ => none

end ServiceCompiler.Build
