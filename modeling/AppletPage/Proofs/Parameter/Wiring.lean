import AppletPage.Parameter.Plugin
import AppletPage.Proofs.Text.Ascii

/-! The wiring of an applet: the parameters that tie it to its server and to its plugins. What the
plugins of a set are depends on the wiring alone. -/

namespace AppletPage

open Text

/-- Whether a name in small letters belongs to the wiring. -/
def isWiring (folded : String) : Bool :=
  folded = "port" || folded = "server.classname" || "plugins.".toList.isPrefixOf folded.toList

namespace Plugin

theorem isWiring_countKey : isWiring (lower countKey) = true := by decide

theorem isWiring_classnameKey (index : Nat) : isWiring (lower (classnameKey index)) = true := by
  have ascii : ∀ c ∈ "plugins.".toList, c.toNat < 0x80 := ascii_of_all (by decide)
  have small : "plugins.".toList.map Char.toLower = "plugins.".toList := by decide
  have key : classnameKey index = "plugins." ++ (toString index ++ ".classname") :=
    String.append_assoc
  have start : "plugins.".toList.isPrefixOf (lower (classnameKey index)).toList = true := by
    rw [key]
    exact isPrefixOf_lower_append ascii small _
  exact Bool.or_eq_true_iff.mpr (.inr start)

end Plugin

namespace ParameterSet

variable {a b : ParameterSet}

def wiring (set : ParameterSet) : List (String × String) :=
  set.entries.filter fun entry => isWiring (lower entry.1)

theorem get?_eq_wiring (set : ParameterSet) {name : String}
    (wires : isWiring (lower name) = true) :
    set.get? name = Mapping.get? set.wiring name := by
  rw [get?, Mapping.get?, Mapping.get?, wiring, List.find?_filter]
  congr 2
  funext entry
  by_cases same : entry.1 = name
  · simp [same, wires]
  · simp [same]

theorem get?_of_wiring (same : a.wiring = b.wiring) {name : String}
    (wires : isWiring (lower name) = true) : a.get? name = b.get? name := by
  rw [get?_eq_wiring a wires, get?_eq_wiring b wires, same]

theorem readFrom_of_wiring (same : a.wiring = b.wiring) (count left index : Nat) :
    Plugin.readFrom a count left index = Plugin.readFrom b count left index := by
  induction left generalizing index with
  | zero => rfl
  | succ left ih =>
      rw [Plugin.readFrom, Plugin.readFrom, Plugin.classname?, Plugin.classname?,
        get?_of_wiring same (Plugin.isWiring_classnameKey index), ih]

theorem plugins_of_wiring (same : a.wiring = b.wiring) : a.plugins = b.plugins := by
  rw [plugins, plugins, get?_of_wiring same Plugin.isWiring_countKey]
  cases b.get? Plugin.countKey with
  | none => rfl
  | some text =>
      cases read : Plugin.readCount text with
      | error error => simp only [read]
      | ok count => simp only [read, readFrom_of_wiring same]

end ParameterSet

end AppletPage
