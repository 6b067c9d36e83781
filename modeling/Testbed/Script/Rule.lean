import Testbed.Plan
import Testbed.Script.Literal

/-!
# Step rules

A rule lists the phrases it stands for, what the script announces, and the action it performs. The
table is closed: a step is recognized when a rule lists its phrase exactly.
-/

namespace Testbed.Script

inductive Action where
  | navigate
  | fill (placeholder : String)
  | clickRole (role : String) (name : String)
  | clickText (text : String)
  | expectPage (pattern : String) (heading : String)
  | expectText (text : String)
  deriving Repr, DecidableEq

structure Rule where
  phrases : List String
  announce : String
  action : Action
  deriving Repr, DecidableEq

/-- Whether the test data of a step enters the script. -/
def Action.usesData : Action → Bool
  | .navigate | .fill _ => true
  | _ => false

/-- The lines of an action, with the data already written as a literal. -/
def Action.lines (data : String) : Action → List String
  | .navigate => [s!"await page.goto(\"{data}\")"]
  | .fill placeholder => [s!"await page.get_by_placeholder(\"{placeholder}\").fill(\"{data}\")"]
  | .clickRole role name => [s!"await page.get_by_role(\"{role}\", name=\"{name}\").click()"]
  | .clickText text => [s!"await page.get_by_text(\"{text}\").click()"]
  | .expectPage pattern heading =>
    [s!"await expect(page).to_have_url(re.compile(r\"{pattern}\"))",
      s!"expected_heading = page.get_by_role(\"heading\", name=\"{heading}\")",
      "await expect(expected_heading).to_be_visible()"]
  | .expectText text => [s!"await expect(page.get_by_text(\"{text}\")).to_be_visible()"]

def indent : String := "            "

/-- The lines of a step: its announcement and then its action. -/
def Rule.lines (r : Rule) (data : String) : List String :=
  (s!"print(\"Step: {r.announce}\")" :: r.action.lines (escape data)).map (indent ++ ·)

/-- The rules in the order in which they are tried. -/
def rules : List Rule := [
  { phrases := ["Given the user is on the OrangeHRM login page"]
    announce := "Navigating to the OrangeHRM login page..."
    action := .navigate },
  { phrases := ["When the user enters the username", "And enters their username"]
    announce := "Entering username..."
    action := .fill "Username" },
  { phrases := ["And the user enters the password"]
    announce := "Entering password..."
    action := .fill "Password" },
  { phrases := ["And clicks the login button", "And clicks the 'Reset Password' button"]
    announce := "Clicking the button..."
    action := .clickRole "button" "Login" },
  { phrases := ["When the user clicks on 'Forgot your Password?'"]
    announce := "Clicking 'Forgot your Password?'..."
    action := .clickText "Forgot your Password?" },
  { phrases := ["Then the user should be redirected to the dashboard"]
    announce := "Verifying redirection to the dashboard..."
    action := .expectPage ".*/dashboard/index" "Dashboard" },
  { phrases := ["Then a password reset link should be sent successfully"]
    announce := "Verifying password reset link..."
    action := .expectText "Reset link sent successfully" }]

def ruleFor? (phrase : String) : Option Rule := rules.find? (phrase ∈ ·.phrases)

end Testbed.Script
