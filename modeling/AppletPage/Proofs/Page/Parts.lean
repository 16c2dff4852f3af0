import AppletPage.Page.Parse
import AppletPage.Page.Render
import AppletPage.Proofs.Markup.Document

/-! The document of a page as the parts it is written in. -/

namespace AppletPage.Page

open Markup

def headParts : List Part :=
  [.declaration 'D' "OCTYPE HTML PUBLIC \"-//W3C//DTD HTML 4.01 Transitional//EN\"".toList,
   .text ['\n'],
   .startTag { name := { chars := "html".toList } }, .text ['\n'],
   .startTag { name := { chars := "head".toList } }, .text ['\n'],
   .startTag
     { name := { chars := "meta".toList }
       attributes :=
         [{ gap := [' '], name := "http-equiv".toList, value := "Content-Type".toList },
          { gap := [' '], name := "content".toList,
            value := "text/html; charset=utf-8".toList }] },
   .text ['\n'],
   .startTag { name := { chars := "title".toList } }]

def middleParts : List Part :=
  [.endTag { chars := "title".toList }, .text ['\n'],
   .endTag { chars := "head".toList }, .text ['\n', '\n'],
   .startTag { name := { chars := "body".toList } }, .text ['\n', '\n'],
   .startTag { name := { chars := "center".toList } }, .text ['\n']]

def endParts : List Part :=
  [.text ['\n'],
   .endTag { chars := "applet".toList }, .text ['\n'],
   .endTag { chars := "center".toList }, .text ['\n', '\n'],
   .endTag { chars := "body".toList }, .text ['\n'],
   .endTag { chars := "html".toList }, .text ['\n']]

def appletTag (page : Page) : WrittenTag where
  name := { chars := "applet".toList }
  attributes :=
    [{ gap := [' '], name := "code".toList, value := page.code.toList },
     { gap := "\n        ".toList, name := "archive".toList,
       value := (archiveText page.archive).toList },
     { gap := "\n        ".toList, name := "width".toList,
       value := (toString page.width).toList },
     { gap := [' '], name := "height".toList, value := (toString page.height).toList }]

def parameterTag (entry : String × String) : WrittenTag where
  name := { chars := "param".toList }
  attributes :=
    [{ gap := [' '], name := "name".toList, value := entry.1.toList },
     { gap := [' '], name := "value".toList, value := entry.2.toList }]

def parameterParts (entry : String × String) : List Part :=
  [.text "  ".toList, .startTag (parameterTag entry), .text ['\n']]

def parts (page : Page) : List Part :=
  headParts ++ .text page.title.toList :: middleParts
    ++ .startTag page.appletTag :: .text ['\n'] :: page.parameters.entries.flatMap parameterParts
    ++ .text "\n  ".toList :: .text page.fallbackText.toList :: endParts

/-! Each line of the document is what its parts are written as. -/

private def appletHead : List Char := "<applet code=\"".toList

private theorem documentHead_eq : documentHead = headParts.flatMap Part.chars := by
  delta documentHead
  simp only [String.toList_append, -String.reduceToList]
  decide +kernel

private theorem bodyHead_eq : bodyHead = middleParts.flatMap Part.chars ++ appletHead := by
  decide

private theorem documentEnd_eq : documentEnd = endParts.flatMap Part.chars := by
  decide

theorem parameterLine_eq (entry : String × String) :
    parameterLine entry = (parameterParts entry).flatMap Part.chars := by
  have head : parameterHead = escape "  ".toList ++ '<' :: "param".toList
      ++ [' '] ++ "name".toList ++ ['=', '"'] := by decide
  have middle : valueHead = '"' :: [' '] ++ "value".toList ++ ['=', '"'] := by decide
  have close : parameterEnd = '"' :: tagEnd false ++ escape ['\n'] := by decide
  rw [parameterLine, lineOf, head, middle, close]
  delta parameterParts parameterTag
  simp only [-String.reduceToList, id, Part.chars, WrittenTag.chars,
    WrittenTag.body, WrittenAttribute.chars, WrittenAttribute.body, escaped,
    List.flatMap_cons, List.flatMap_nil, List.cons_append, List.append_assoc, List.nil_append,
    List.append_nil]

private theorem appletTag_eq (page : Page) (rest : List Char) :
    appletHead ++ (escape page.code.toList
        ++ (archiveHead ++ (escape (archiveText page.archive).toList
        ++ (widthHead ++ (escape (toString page.width).toList
        ++ (heightHead ++ (escape (toString page.height).toList ++ (appletEnd ++ rest)))))))) =
      page.appletTag.chars ++ (escape ['\n'] ++ rest) := by
  have code : appletHead = '<' :: "applet".toList ++ [' '] ++ "code".toList ++ ['=', '"'] := by
    decide
  have archive : archiveHead = '"' :: "\n        ".toList ++ "archive".toList ++ ['=', '"'] := by
    decide
  have width : widthHead = '"' :: "\n        ".toList ++ "width".toList ++ ['=', '"'] := by
    decide
  have height : heightHead = '"' :: [' '] ++ "height".toList ++ ['=', '"'] := by decide
  have close : appletEnd = '"' :: tagEnd false ++ escape ['\n'] := by decide
  rw [code, archive, width, height, close]
  delta appletTag
  simp only [-String.reduceToList, WrittenTag.chars, WrittenTag.body,
    WrittenAttribute.chars, WrittenAttribute.body, List.flatMap_cons, List.flatMap_nil,
    List.cons_append, List.append_assoc, List.nil_append]

theorem chars_eq (page : Page) : page.chars = page.parts.flatMap Part.chars := by
  have lines : page.parameters.entries.flatMap parameterLine =
      (page.parameters.entries.flatMap parameterParts).flatMap Part.chars := by
    rw [List.flatMap_assoc]
    exact congrArg (fun line => page.parameters.entries.flatMap line) (funext parameterLine_eq)
  have fallback : fallbackHead = escape "\n  ".toList := by decide
  rw [chars, layOut, documentHead_eq, bodyHead_eq, documentEnd_eq, lines, fallback, parts]
  simp only [id, List.flatMap_append, List.flatMap_cons, Part.chars, List.append_assoc,
    List.cons_append, appletTag_eq, escaped, -String.reduceToList]

end AppletPage.Page
