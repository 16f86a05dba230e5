import ServiceCompiler.Source.Emit

/-! # The helpers of Rust programs

The module `rt` of every generated program: the operators on values, whose types are known only when
the program runs. -/

namespace ServiceCompiler.Rust

open Source (Emit)

def runtimeUses : List String :=
  ["use serde_json::\x7bjson, Value\x7d;",
    "use std::cmp::Ordering;"]

def runtimeTruthy : List String :=
  ["pub fn truthy(value: &Value) -> bool \x7b",
    "    match value \x7b",
    "        Value::Null => false,",
    "        Value::Bool(b) => *b,",
    "        Value::Number(n) => n.as_f64().is_some_and(|f| f != 0.0),",
    "        Value::String(s) => !s.is_empty(),",
    "        Value::Array(a) => !a.is_empty(),",
    "        Value::Object(o) => !o.is_empty(),",
    "    \x7d",
    "\x7d"]

def runtimeText : List String :=
  ["pub fn text(value: &Value) -> String \x7b",
    "    match value \x7b",
    "        Value::String(s) => s.clone(),",
    "        other => other.to_string(),",
    "    \x7d",
    "\x7d"]

def runtimeArith : List String :=
  ["fn arith(",
    "    a: &Value,",
    "    b: &Value,",
    "    int: fn(i64, i64) -> Option<i64>,",
    "    float: fn(f64, f64) -> f64,",
    ") -> Value \x7b",
    "    if let (Some(x), Some(y)) = (a.as_i64(), b.as_i64()) \x7b",
    "        if let Some(result) = int(x, y) \x7b",
    "            return json!(result);",
    "        \x7d",
    "    \x7d",
    "    match (a.as_f64(), b.as_f64()) \x7b",
    "        (Some(x), Some(y)) => json!(float(x, y)),",
    "        _ => Value::Null,",
    "    \x7d",
    "\x7d"]

def runtimeAdd : List String :=
  ["pub fn add(a: &Value, b: &Value) -> Value \x7b",
    "    match (a, b) \x7b",
    "        (Value::String(x), y) => Value::String(format!(\"\x7b\x7d\x7b\x7d\", x, text(y))),",
    "        (x, Value::String(y)) => Value::String(format!(\"\x7b\x7d\x7b\x7d\", text(x), y)),",
    "        (Value::Array(x), Value::Array(y)) => Value::Array(x.iter().chain(y).cloned().collect()),",
    "        _ => arith(a, b, i64::checked_add, |x, y| x + y),",
    "    \x7d",
    "\x7d"]

def runtimeSub : List String :=
  ["pub fn sub(a: &Value, b: &Value) -> Value \x7b",
    "    arith(a, b, i64::checked_sub, |x, y| x - y)",
    "\x7d"]

def runtimeMul : List String :=
  ["pub fn mul(a: &Value, b: &Value) -> Value \x7b",
    "    arith(a, b, i64::checked_mul, |x, y| x * y)",
    "\x7d"]

def runtimeDiv : List String :=
  ["pub fn div(a: &Value, b: &Value) -> Value \x7b",
    "    arith(",
    "        a,",
    "        b,",
    "        |x, y| x.checked_rem(y).filter(|r| *r == 0).and_then(|_| x.checked_div(y)),",
    "        |x, y| x / y,",
    "    )",
    "\x7d"]

def runtimeRem : List String :=
  ["pub fn rem(a: &Value, b: &Value) -> Value \x7b",
    "    arith(a, b, i64::checked_rem, |x, y| x % y)",
    "\x7d"]

def runtimeNeg : List String :=
  ["pub fn neg(a: &Value) -> Value \x7b",
    "    sub(&json!(0), a)",
    "\x7d"]

def runtimeCompare : List String :=
  ["pub fn compare(a: &Value, b: &Value) -> Option<Ordering> \x7b",
    "    match (a, b) \x7b",
    "        (Value::String(x), Value::String(y)) => Some(x.cmp(y)),",
    "        _ => a.as_f64()?.partial_cmp(&b.as_f64()?),",
    "    \x7d",
    "\x7d"]

def runtimeLt : List String :=
  ["pub fn lt(a: &Value, b: &Value) -> bool \x7b",
    "    compare(a, b) == Some(Ordering::Less)",
    "\x7d"]

def runtimeLe : List String :=
  ["pub fn le(a: &Value, b: &Value) -> bool \x7b",
    "    matches!(compare(a, b), Some(Ordering::Less | Ordering::Equal))",
    "\x7d"]

def runtimeGt : List String :=
  ["pub fn gt(a: &Value, b: &Value) -> bool \x7b",
    "    compare(a, b) == Some(Ordering::Greater)",
    "\x7d"]

def runtimeGe : List String :=
  ["pub fn ge(a: &Value, b: &Value) -> bool \x7b",
    "    matches!(compare(a, b), Some(Ordering::Greater | Ordering::Equal))",
    "\x7d"]

def runtimeField : List String :=
  ["pub fn field(value: &Value, name: &str) -> Value \x7b",
    "    value.get(name).cloned().unwrap_or(Value::Null)",
    "\x7d"]

def runtimeIndex : List String :=
  ["pub fn index(value: &Value, key: &Value) -> Value \x7b",
    "    match key \x7b",
    "        Value::String(name) => field(value, name),",
    "        Value::Number(n) => n",
    "            .as_u64()",
    "            .and_then(|i| value.get(i as usize))",
    "            .cloned()",
    "            .unwrap_or(Value::Null),",
    "        _ => Value::Null,",
    "    \x7d",
    "\x7d"]

def runtimeRest : List String :=
  ["pub fn rest(value: &Value, from: usize) -> Value \x7b",
    "    match value.as_array() \x7b",
    "        Some(items) => Value::Array(items.iter().skip(from).cloned().collect()),",
    "        None => Value::Null,",
    "    \x7d",
    "\x7d"]

def runtimeIter : List String :=
  ["pub fn iter(value: &Value) -> Vec<Value> \x7b",
    "    match value \x7b",
    "        Value::Array(items) => items.clone(),",
    "        Value::Object(map) => map.values().cloned().collect(),",
    "        Value::String(s) => s.chars().map(|c| Value::String(c.to_string())).collect(),",
    "        _ => Vec::new(),",
    "    \x7d",
    "\x7d"]

def runtimeEntries : List String :=
  ["pub fn entries(value: &Value) -> Vec<(Value, Value)> \x7b",
    "    match value \x7b",
    "        Value::Array(items) => items",
    "            .iter()",
    "            .enumerate()",
    "            .map(|(i, v)| (json!(i), v.clone()))",
    "            .collect(),",
    "        Value::Object(map) => map.iter().map(|(k, v)| (json!(k), v.clone())).collect(),",
    "        _ => Vec::new(),",
    "    \x7d",
    "\x7d"]

def runtimeParse : List String :=
  ["pub fn parse(raw: &str) -> Value \x7b",
    "    serde_json::from_str(raw).unwrap_or_else(|_| Value::String(raw.to_string()))",
    "\x7d"]

def runtimeLen : List String :=
  ["pub fn len(value: &Value) -> Value \x7b",
    "    match value \x7b",
    "        Value::String(s) => json!(s.chars().count()),",
    "        Value::Array(a) => json!(a.len()),",
    "        Value::Object(o) => json!(o.len()),",
    "        _ => json!(0),",
    "    \x7d",
    "\x7d"]

def runtimeMap : List String :=
  ["pub fn map(value: &Value, f: impl Fn(Value) -> Value) -> Value \x7b",
    "    Value::Array(iter(value).into_iter().map(f).collect())",
    "\x7d"]

def runtimeFilter : List String :=
  ["pub fn filter(value: &Value, f: impl Fn(Value) -> Value) -> Value \x7b",
    "    Value::Array(",
    "        iter(value)",
    "            .into_iter()",
    "            .filter(|item| truthy(&f(item.clone())))",
    "            .collect(),",
    "    )",
    "\x7d"]

def runtimeCallMethod : List String :=
  ["pub fn call_method(receiver: &Value, name: &str, args: &[Value]) -> Value \x7b",
    "    match (name, receiver) \x7b",
    "        (\"len\" | \"length\" | \"count\", _) => len(receiver),",
    "        (\"keys\", Value::Object(map)) => map.keys().map(|k| json!(k)).collect(),",
    "        (\"values\", Value::Object(map)) => map.values().cloned().collect(),",
    "        (\"upper\" | \"toUpperCase\", Value::String(s)) => json!(s.to_uppercase()),",
    "        (\"lower\" | \"toLowerCase\", Value::String(s)) => json!(s.to_lowercase()),",
    "        (\"trim\", Value::String(s)) => json!(s.trim()),",
    "        (\"contains\" | \"includes\", Value::Array(items)) => \x7b",
    "            json!(args.first().is_some_and(|x| items.contains(x)))",
    "        \x7d",
    "        (\"contains\" | \"includes\", Value::String(s)) => \x7b",
    "            json!(args.first().and_then(Value::as_str).is_some_and(|x| s.contains(x)))",
    "        \x7d",
    "        (\"get\", _) => args.first().map(|key| index(receiver, key)).unwrap_or(Value::Null),",
    "        _ => \x7b",
    "            tracing::warn!(method = name, \"unsupported method call\");",
    "            Value::Null",
    "        \x7d",
    "    \x7d",
    "\x7d"]

def runtimeCall : List String :=
  ["pub fn call(name: &str, args: &[Value]) -> Value \x7b",
    "    match (name, args) \x7b",
    "        (\"len\", [value]) => len(value),",
    "        (\"str\" | \"String\", [value]) => json!(text(value)),",
    "        (\"print\" | \"log\" | \"console.log\", _) => \x7b",
    "            let line: Vec<String> = args.iter().map(text).collect();",
    "            tracing::info!(\"\x7b\x7d\", line.join(\" \"));",
    "            Value::Null",
    "        \x7d",
    "        _ => \x7b",
    "            tracing::warn!(function = name, \"unknown function\");",
    "            Value::Null",
    "        \x7d",
    "    \x7d",
    "\x7d"]

/-- The helpers with a gap between neighbours. -/
def runtimeItems : List (List String) :=
  [runtimeUses, runtimeTruthy, runtimeText, runtimeArith, runtimeAdd, runtimeSub, runtimeMul,
    runtimeDiv, runtimeRem, runtimeNeg, runtimeCompare, runtimeLt, runtimeLe, runtimeGt,
    runtimeGe, runtimeField, runtimeIndex, runtimeRest, runtimeIter, runtimeEntries,
    runtimeParse, runtimeLen, runtimeMap, runtimeFilter, runtimeCallMethod, runtimeCall]

def runtimeLines : Emit Unit := do
  Source.Emit.line "/// Dynamic value helpers used by the handlers below"
  Source.Emit.braces "mod rt"
    (Source.Emit.spaced runtimeItems Source.Emit.lines) ""

end ServiceCompiler.Rust
