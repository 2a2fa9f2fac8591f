import ObjectWatch.Value.Basic

/-!
The names of the classes of values, as messages give them.
-/

namespace ObjectWatch.Value

def className : Value → String
  | null => "NoneType"
  | bool _ => "bool"
  | int _ => "int"
  | float _ => "float"
  | str _ => "str"
  | octets _ => "bytes"
  | list _ | enclosing _ => "list"
  | tuple _ => "tuple"
  | mapping _ => "dict"
  | set _ => "set"
  | day _ => "datetime.date"
  | moment _ => "datetime.datetime"
  | identity _ => "kcache_filter.nsname.NSName"
  | record _ => "types.SimpleNamespace"
  | metadata .. => "kcache_filter.objects.ObjectMeta"
  | object .. => "kcache_filter.objects.Object"
  | service .. => "kcache_filter.objects.Service"
  | sealed shown _ => shown
  | knot _ body => body.className

end ObjectWatch.Value
