/-
# Pages and mails

A template is a list of parts: fixed text, the value of a variable, and a branch on whether a
variable is true.  A value is escaped for markup, except where a part says that it is markup already
(`verbatim`).  Variables are the members of an object; one that is absent shows nothing and is not
true.

There are two templates: the mail with the reset link, whose link alone is inserted verbatim, and
the page on which a password is changed.
-/

import SoilWatch.Json.Value
import SoilWatch.Text.Markup

namespace SoilWatch

open Json (Value)

namespace Template

/-- A part of a template. -/
inductive Part where
  | fixed (text : String)
  | escaped (name : String)
  | verbatim (name : String)
  | branch (name : String) (yes no : List Part)

/-! ### The text of a value -/

/-- How a number inside a list or an object is shown. -/
def innerLayout : Decimal.Layout := ⟨-4, 15, false, 1⟩

/-- How a number is shown: never with an exponent. -/
def outerLayout : Decimal.Layout := ⟨-400, 400, false, 1⟩

mutual

/-- The text of a value inside a list or an object: texts stand in quotes. -/
def innerText : Value → String
  | .null => "none"
  | .bool b => if b then "true" else "false"
  | .integer n => n.repr
  | .float x => innerLayout.text x
  | .text s => Text.quoted s
  | .list xs => "[" ++ ", ".intercalate (innerTexts xs) ++ "]"
  | .object ms => "\x7b" ++ ", ".intercalate (innerMembers ms) ++ "\x7d"

/-- The texts of the elements of a list. -/
def innerTexts : List Value → List String
  | [] => []
  | x :: xs => innerText x :: innerTexts xs

/-- The texts of the members of an object. -/
def innerMembers : List (String × Value) → List String
  | [] => []
  | m :: ms => innerMember m :: innerMembers ms

/-- The text of a member of an object. -/
def innerMember : String × Value → String
  | (name, v) => Text.quoted name ++ ": " ++ innerText v

end

/-- The text that a value shows; one that is absent shows nothing. -/
def outerText : Option Value → String
  | none => ""
  | some (.text s) => s
  | some (.float x) => outerLayout.text x
  | some v => innerText v

/-- Whether a value counts as true: it is there, and it is not `null`, `false`, zero or empty. -/
def isTrue : Option Value → Bool
  | none | some .null => false
  | some (.bool b) => b
  | some (.integer n) => n ≠ 0
  | some (.float x) => x.magnitude.mantissa ≠ 0
  | some (.text s) => !s.isEmpty
  | some (.list xs) => !xs.isEmpty
  | some (.object ms) => !ms.isEmpty

/-! ### Rendering -/

mutual

/-- The characters of a part. -/
def partChars (env : String → Option Value) : Part → List Char
  | .fixed t => t.toList
  | .escaped x => Text.Markup.escapeChars (outerText (env x)).toList
  | .verbatim x => (outerText (env x)).toList
  | .branch x yes no => if isTrue (env x) then chars env yes else chars env no

/-- The characters of a list of parts. -/
def chars (env : String → Option Value) : List Part → List Char
  | [] => []
  | p :: ps => partChars env p ++ chars env ps

end

/-- The name of the mail with the reset link. -/
def resetMailName : String := "reset_pw_email.html"

/-- The name of the page on which a password is changed. -/
def passwordPageName : String := "change_pw_page.html"

/-- The mail with the reset link. -/
def resetMail : List Part := [
  .fixed "<!DOCTYPE html>\n<html>\n  <body style=\"font-family: sans-serif; color: #2f3b2f;\">\n",
  .fixed "    <p>Hi ",
  .escaped "username",
  .fixed ",</p>\n    <p>Someone asked to reset the password of your Sprout account.\n",
  .fixed "       If that was you, follow the link below within the next hour.</p>\n",
  .fixed "    <p><a href=\"",
  .verbatim "reset_link",
  .fixed "\">Reset my password</a></p>\n",
  .fixed "    <p>If you did not ask for this, you can ignore this email.</p>\n  </body>\n</html>"]

/-- The page on which a password is changed. -/
def passwordPage : List Part := [
  .fixed "<!DOCTYPE html>\n<html>\n  <head>\n    <meta charset=\"utf-8\">\n",
  .fixed "    <title>Sprout - change password</title>\n  </head>\n",
  .fixed "  <body style=\"font-family: sans-serif; color: #2f3b2f;\">\n    ",
  .branch "changed"
    [.fixed "\n      <h2>Password changed</h2>\n",
      .fixed "      <p>You can now log in with your new password, ",
      .escaped "username",
      .fixed ".</p>\n    "]
    [.fixed "\n      <h2>Change password for ",
      .escaped "username",
      .fixed "</h2>\n      ",
      .branch "error" [.fixed "<p style=\"color: #a33;\">", .escaped "error", .fixed "</p>"] [],
      .fixed "\n      <form method=\"post\">\n",
      .fixed "        <label>New password <input type=\"password\" name=\"pw1\"></label><br>\n",
      .fixed "        <label>Confirm <input type=\"password\" name=\"pw2\"></label><br>\n",
      .fixed "        <button type=\"submit\">Change password</button>\n      </form>\n    "],
  .fixed "\n  </body>\n</html>"]

/-- The template of that name. -/
def find? (name : String) : Option (List Part) :=
  if name = resetMailName then some resetMail
  else if name = passwordPageName then some passwordPage
  else none

/-- Renders the template of that name with the members of an object as variables. -/
def render (name : String) (vars : Value) : Except String String :=
  match find? name with
  | some parts => .ok (String.ofList (chars vars.get? parts))
  | none => .error ("template not found: template " ++ Text.quoted name ++ " does not exist")

end Template
end SoilWatch
