namespace RequestBook

inductive Method
  | get : Method
  | post : Method
  | put : Method
  | delete : Method
  | patch : Method
  | options : Method
  | head : Method
  | trace : Method
  | connect : Method
  deriving DecidableEq

namespace Method

def all : List Method :=
  [.get, .post, .put, .delete, .patch, .options, .head, .trace, .connect]

def name : Method → String
  | .get => "GET"
  | .post => "POST"
  | .put => "PUT"
  | .delete => "DELETE"
  | .patch => "PATCH"
  | .options => "OPTIONS"
  | .head => "HEAD"
  | .trace => "TRACE"
  | .connect => "CONNECT"

def ofName? (s : String) : Option Method :=
  all.find? fun m => m.name == s

@[simp] theorem ofName?_name (m : Method) : ofName? m.name = some m := by
  cases m <;> decide

theorem name_of_ofName? {s : String} {m : Method} (h : ofName? s = some m) : m.name = s := by
  simpa using List.find?_some h

end Method

end RequestBook
