import FunctionCatalog.Text.Hex
import FunctionCatalog.Text.Printable
set_option autoImplicit false

/-!
Quoted texts. The quote is an apostrophe unless the text holds one and holds no double quote; the
backslash, the chosen quote and every character without a visible form are spelled out.
-/

namespace FunctionCatalog.Text

def quoteFor (text : List Char) : Char :=
  if '\x27' ∈ text ∧ '\x22' ∉ text then '\x22' else '\x27'

def spellOut (c : Char) : List Char :=
  if c.toNat < 0x100 then '\\' :: 'x' :: hex 2 c.toNat
  else if c.toNat < 0x10000 then '\\' :: 'u' :: hex 4 c.toNat
  else '\\' :: 'U' :: hex 8 c.toNat

def quotedChar (quote c : Char) : List Char :=
  if c = quote ∨ c = '\\' then ['\\', c]
  else if c = '\n' then ['\\', 'n']
  else if c = '\r' then ['\\', 'r']
  else if c = '\t' then ['\\', 't']
  else if isPrintable c then [c]
  else spellOut c

def quotedChars (text : List Char) : List Char :=
  quoteFor text :: text.flatMap (quotedChar (quoteFor text)) ++ [quoteFor text]

def quoted (text : String) : String := String.ofList (quotedChars text.toList)

end FunctionCatalog.Text
