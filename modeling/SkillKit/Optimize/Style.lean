import SkillKit.Text.Basic

/-!
# Style of the report page

A style sheet as a list of rules, each written in one line or over several lines.
-/

namespace SkillKit.Optimize

structure StyleRule where
  selector : String
  declarations : List String
  inOneLine : Bool

def StyleRule.line (selector : String) (declarations : List String) : StyleRule :=
  ⟨selector, declarations, true⟩

def StyleRule.block (selector : String) (declarations : List String) : StyleRule :=
  ⟨selector, declarations, false⟩

def StyleRule.render (r : StyleRule) : String :=
  if r.inOneLine then
    "        " ++ r.selector ++ " \x7b " ++ String.join (r.declarations.map (· ++ "; ")) ++ "\x7d\n"
  else
    "        " ++ r.selector ++ " \x7b\n"
      ++ String.join (r.declarations.map fun d => "            " ++ d ++ ";\n")
      ++ "        \x7d\n"

def reportStyle : List StyleRule := [
  .block "body" ["font-family: 'Lora', Georgia, serif", "max-width: 100%", "margin: 0 auto",
    "padding: 20px", "background: #faf9f5", "color: #141413"],
  .line "h1" ["font-family: 'Poppins', sans-serif", "color: #141413"],
  .block ".explainer" ["background: white", "padding: 15px", "border-radius: 6px",
    "margin-bottom: 20px", "border: 1px solid #e8e6dc", "color: #b0aea5", "font-size: 0.875rem",
    "line-height: 1.6"],
  .block ".summary" ["background: white", "padding: 15px", "border-radius: 6px",
    "margin-bottom: 20px", "border: 1px solid #e8e6dc"],
  .line ".summary p" ["margin: 5px 0"],
  .line ".best" ["color: #788c5d", "font-weight: bold"],
  .block ".table-container" ["overflow-x: auto", "width: 100%"],
  .block "table" ["border-collapse: collapse", "background: white", "border: 1px solid #e8e6dc",
    "border-radius: 6px", "font-size: 12px", "min-width: 100%"],
  .block "th, td" ["padding: 8px", "text-align: left", "border: 1px solid #e8e6dc",
    "white-space: normal", "word-wrap: break-word"],
  .block "th" ["font-family: 'Poppins', sans-serif", "background: #141413", "color: #faf9f5",
    "font-weight: 500"],
  .block "th.test-col" ["background: #6a9bcc"],
  .line "th.query-col" ["min-width: 200px"],
  .block "td.description" ["font-family: monospace", "font-size: 11px", "word-wrap: break-word",
    "max-width: 400px"],
  .block "td.result" ["text-align: center", "font-size: 16px", "min-width: 40px"],
  .block "td.test-result" ["background: #f0f6fc"],
  .line ".pass" ["color: #788c5d"],
  .line ".fail" ["color: #c44"],
  .block ".rate" ["font-size: 9px", "color: #b0aea5", "display: block"],
  .line "tr:hover" ["background: #faf9f5"],
  .block ".score" ["display: inline-block", "padding: 2px 6px", "border-radius: 4px",
    "font-weight: bold", "font-size: 11px"],
  .line ".score-good" ["background: #eef2e8", "color: #788c5d"],
  .line ".score-ok" ["background: #fef3c7", "color: #d97706"],
  .line ".score-bad" ["background: #fceaea", "color: #c44"],
  .line ".train-label" ["color: #b0aea5", "font-size: 10px"],
  .line ".test-label" ["color: #6a9bcc", "font-size: 10px", "font-weight: bold"],
  .line ".best-row" ["background: #f5f8f2"],
  .line "th.positive-col" ["border-bottom: 3px solid #788c5d"],
  .line "th.negative-col" ["border-bottom: 3px solid #c44"],
  .line "th.test-col.positive-col" ["border-bottom: 3px solid #788c5d"],
  .line "th.test-col.negative-col" ["border-bottom: 3px solid #c44"],
  .line ".legend" ["font-family: 'Poppins', sans-serif", "display: flex", "gap: 20px",
    "margin-bottom: 10px", "font-size: 13px", "align-items: center"],
  .line ".legend-item" ["display: flex", "align-items: center", "gap: 6px"],
  .line ".legend-swatch" ["width: 16px", "height: 16px", "border-radius: 3px",
    "display: inline-block"],
  .line ".swatch-positive" ["background: #141413", "border-bottom: 3px solid #788c5d"],
  .line ".swatch-negative" ["background: #141413", "border-bottom: 3px solid #c44"],
  .line ".swatch-test" ["background: #6a9bcc"],
  .line ".swatch-train" ["background: #141413"]]

end SkillKit.Optimize
