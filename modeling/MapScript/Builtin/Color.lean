/-
Colors given by hue, saturation and lightness.

All components are fractions. The hue is a position on a circle, saturation and
lightness are moved into the interval from zero to one, and the opacity is taken as it
is. The result lists red, green, blue and opacity, to six places.
-/
import MapScript.Builtin.Numeric

set_option autoImplicit false

namespace MapScript.Builtin

/-- The number moved into the interval from zero to one. -/
def clampUnit (x : Float) : Float := if x < 0.0 then 0.0 else if x > 1.0 then 1.0 else x

/-- One of the three color channels: `t` is the distance of the hue from the channel, and
`p` and `q` are the darkest and the lightest it can be. -/
def channel (p q t : Float) : Float :=
  let t := Number.turn t
  if t < 1.0 / 6.0 then p + (q - p) * 6.0 * t
  else if t < 0.5 then q
  else if t < 2.0 / 3.0 then p + (q - p) * (2.0 / 3.0 - t) * 6.0
  else p

/-- Red, green and blue of a color. -/
def rgb (hue saturation lightness : Float) : List Float :=
  if saturation == 0.0 then [lightness, lightness, lightness]
  else
    let q :=
      if lightness < 0.5 then lightness * (1.0 + saturation)
      else lightness + saturation - lightness * saturation
    let p := 2.0 * lightness - q
    [channel p q (hue + 1.0 / 3.0), channel p q hue, channel p q (hue - 1.0 / 3.0)]

/-- A component to six places, a half away from zero. -/
def sixPlaces (x : Float) : Float := Number.Rounding.nearestAway.apply (x * 1e6) / 1e6

/-- The text of a color. -/
def colorText (hue saturation lightness opacity : Float) : Text :=
  let components :=
    rgb (Number.turn hue) (clampUnit saturation) (clampUnit lightness) ++ [opacity]
  '[' :: Text.join [','] (components.map fun x => Number.format (sixPlaces x)) ++ [']']

/-- The color that the arguments describe. -/
def color (arguments : Arguments) : Except ScriptError Text :=
  let items := arguments.items
  if 3 ≤ items.length ∧ items.length ≤ 4 then do
    match ← items.mapM arguments.number with
    | [hue, saturation, lightness, opacity] =>
      .ok (colorText hue saturation lightness opacity)
    | hue :: saturation :: lightness :: _ => .ok (colorText hue saturation lightness 1.0)
    | _ => .ok []
  else
    arguments.refuse
      ("expected 3 or 4 arguments (h,s,l[,a]), got ".toList ++ Text.ofNat items.length)

/-- **A color** of a color circle as red, green, blue and opacity. -/
def hslToRgb {m : Type → Type} [Monad m] : Function m := fun arguments => pure (color arguments)

end MapScript.Builtin
