/-
# What the chat service is told

Sections 4.1 and 11 of `SPEC_FULL.md`, the instruction of each kind and the user
message.

The system message instructs the service to answer with the plan of one kind of
diagram, as a JSON object and nothing else.  The user message holds the code in
a fence of backquotes, one longer than usual if the code holds a usual fence.
-/

import CodeDiagram.Kind
import CodeDiagram.Text.Search

namespace CodeDiagram

namespace Chat

/-- Lines with a line feed between two of them. -/
def paragraph (lines : List String) : String := "\n".intercalate lines

/-- The instruction for a flowchart. -/
def flowchartInstruction : String :=
  paragraph
    ["You are a code analysis engine. Your only task is to analyze the user's code " ++
      "snippet and convert its logical flow into a JSON object representing a " ++
      "flowchart.",
     "",
     "- The JSON object must conform to this structure: \x7b\"nodes\": [], \"edges\": " ++
      "[]\x7d.",
     "- Each node must have an \"id\", a \"label\" (a short description) and a " ++
      "\"type\".",
     "- Node \"id\" MUST be a unique, single word (e.g. \"process1\", " ++
      "\"check_user\"). It cannot contain spaces or punctuation.",
     "- Node \"type\" MUST be one of: \"startEnd\", \"process\", \"decision\" or " ++
      "\"data\".",
     "- Each edge must have \"from\" and \"to\" properties naming node ids, and may " ++
      "have a \"label\".",
     "- Edges leaving a \"decision\" node must have a \"label\" (e.g. \"Yes\", " ++
      "\"No\", \"True\", \"False\").",
     "",
     "CRITICAL: Your entire response MUST be a single, valid JSON object. Do NOT add " ++
      "any explanations, markdown formatting, or other text."]

/-- The instruction for a sequence diagram. -/
def sequenceInstruction : String :=
  paragraph
    ["You are an expert in code analysis. Convert the user's code into a JSON object " ++
      "for a sequence diagram.",
     "",
     "- The JSON must have \"participants\" (actors or components) and \"steps\" " ++
      "(interactions), in call order.",
     "- Each participant needs an \"alias\" (a single word such as \"A\" or " ++
      "\"UserService\") and a \"description\".",
     "- Each step must have \"from\" and \"to\" aliases, a \"label\" for the action, " ++
      "and a \"type\": \"sync\", \"async\" or \"reply\".",
     "",
     "CRITICAL: Respond with a single, valid JSON object only. Do NOT add any " ++
      "explanations or markdown."]

/-- The instruction for a class diagram. -/
def classInstruction : String :=
  paragraph
    ["You are an expert in code analysis. Convert the user's code into a JSON object " ++
      "for a class diagram.",
     "",
     "- The JSON must have \"classes\" and \"relationships\".",
     "- Each class needs an \"id\" (the class name as a single word), a " ++
      "\"properties\" array of strings and a \"methods\" array of strings.",
     "- Each relationship must have \"from\", \"to\", a \"type\" (\"inheritance\", " ++
      "\"composition\", \"aggregation\" or \"association\") and an optional \"label\".",
     "- For \"inheritance\", \"from\" is the subclass and \"to\" is the parent. For " ++
      "\"composition\" and \"aggregation\", \"from\" is the owner.",
     "",
     "CRITICAL: Respond with a single, valid JSON object only. Do NOT add any " ++
      "explanations or markdown."]

/-- The instruction for an entity-relation diagram. -/
def entityRelationInstruction : String :=
  paragraph
    ["You are an expert in database-related code analysis. Convert the user's code " ++
      "(e.g. ORM models, SQL schemas) into a JSON object for an ER diagram.",
     "",
     "- The JSON must have \"entities\" and \"relationships\".",
     "- Each entity \"name\" MUST be a single word (e.g. \"Users\", \"OrderItems\").",
     "- Each entity has a \"columns\" array; each column has a \"name\", a \"type\" " ++
      "and a \"keys\" array containing any of \"PK\" and \"FK\".",
     "- Each relationship must have \"from\", \"to\", a \"cardinality\" written in " ++
      "Mermaid notation (e.g. \"||--o\x7b\", \"|o--||\") and a \"label\".",
     "",
     "CRITICAL: Respond with a single, valid JSON object only. Entity names must not " ++
      "contain spaces or special characters."]

end Chat

/-- The built-in system message for a kind of diagram. -/
def Kind.instruction : Kind → String
  | .flowchart => Chat.flowchartInstruction
  | .sequence => Chat.sequenceInstruction
  | .classes => Chat.classInstruction
  | .entityRelation => Chat.entityRelationInstruction

namespace Chat

/-- Opens and closes a block of code. -/
def fence : String := "```"

/-- The fence that goes around the code. -/
def fenceFor (code : String) : String :=
  if Text.contains fence.toList code.toList then "````" else fence

/-- The user message for some code. -/
def userMessage (code : String) : String :=
  "Code snippet to analyze:\n" ++ fenceFor code ++ "\n" ++ code ++ "\n" ++ fenceFor code

end Chat
end CodeDiagram
