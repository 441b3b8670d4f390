import JavaText.Text.Basic

/-!
# Kinds of constructs

The composite nodes of a Java syntax tree: declarations and their parts, statements and
expressions. `ConstructKind.all` lists the kinds in the order in which their names are published.
-/

namespace JavaText

/-- The kind of a composite node. -/
inductive ConstructKind
  | javaFile
  | packageStatement
  | importList
  | importStatement
  | classDeclaration
  | classInitializer
  | enumConstant
  | field
  | method
  | modifierList
  | annotationUse
  | annotationParameterList
  | nameValuePair
  | typeUse
  | typeParameterList
  | typeParameter
  | referenceParameterList
  | javaCodeReference
  | parameterList
  | parameter
  | throwsList
  | codeBlock
  | blockStatement
  | declarationStatement
  | localVariable
  | expressionStatement
  | expressionListStatement
  | emptyStatement
  | returnStatement
  | throwStatement
  | yieldStatement
  | ifStatement
  | whileStatement
  | doWhileStatement
  | forStatement
  | foreachStatement
  | switchStatement
  | switchLabelStatement
  | breakStatement
  | continueStatement
  | tryStatement
  | catchSection
  | synchronizedStatement
  | assertStatement
  | labeledStatement
  | arrayInitializerExpression
  | arrayAccessExpression
  | assignmentExpression
  | binaryExpression
  | polyadicExpression
  | conditionalExpression
  | prefixExpression
  | postfixExpression
  | typeCastExpression
  | instanceOfExpression
  | parenthExpression
  | literalExpression
  | referenceExpression
  | methodCallExpression
  | expressionList
  | newExpression
  | thisExpression
  | superExpression
  | classObjectAccessExpression
  | lambdaExpression
  | methodReferenceExpression
  | switchExpression
  deriving DecidableEq, Repr

namespace ConstructKind

/-- The published name of a kind. -/
def name : ConstructKind → Text
  | javaFile => "JAVA_FILE"
  | packageStatement => "PACKAGE_STATEMENT"
  | importList => "IMPORT_LIST"
  | importStatement => "IMPORT_STATEMENT"
  | classDeclaration => "CLASS"
  | classInitializer => "CLASS_INITIALIZER"
  | enumConstant => "ENUM_CONSTANT"
  | field => "FIELD"
  | method => "METHOD"
  | modifierList => "MODIFIER_LIST"
  | annotationUse => "ANNOTATION"
  | annotationParameterList => "ANNOTATION_PARAMETER_LIST"
  | nameValuePair => "NAME_VALUE_PAIR"
  | typeUse => "TYPE"
  | typeParameterList => "TYPE_PARAMETER_LIST"
  | typeParameter => "TYPE_PARAMETER"
  | referenceParameterList => "REFERENCE_PARAMETER_LIST"
  | javaCodeReference => "JAVA_CODE_REFERENCE"
  | parameterList => "PARAMETER_LIST"
  | parameter => "PARAMETER"
  | throwsList => "THROWS_LIST"
  | codeBlock => "CODE_BLOCK"
  | blockStatement => "BLOCK_STATEMENT"
  | declarationStatement => "DECLARATION_STATEMENT"
  | localVariable => "LOCAL_VARIABLE"
  | expressionStatement => "EXPRESSION_STATEMENT"
  | expressionListStatement => "EXPRESSION_LIST_STATEMENT"
  | emptyStatement => "EMPTY_STATEMENT"
  | returnStatement => "RETURN_STATEMENT"
  | throwStatement => "THROW_STATEMENT"
  | yieldStatement => "YIELD_STATEMENT"
  | ifStatement => "IF_STATEMENT"
  | whileStatement => "WHILE_STATEMENT"
  | doWhileStatement => "DO_WHILE_STATEMENT"
  | forStatement => "FOR_STATEMENT"
  | foreachStatement => "FOREACH_STATEMENT"
  | switchStatement => "SWITCH_STATEMENT"
  | switchLabelStatement => "SWITCH_LABEL_STATEMENT"
  | breakStatement => "BREAK_STATEMENT"
  | continueStatement => "CONTINUE_STATEMENT"
  | tryStatement => "TRY_STATEMENT"
  | catchSection => "CATCH_SECTION"
  | synchronizedStatement => "SYNCHRONIZED_STATEMENT"
  | assertStatement => "ASSERT_STATEMENT"
  | labeledStatement => "LABELED_STATEMENT"
  | arrayInitializerExpression => "ARRAY_INITIALIZER_EXPRESSION"
  | arrayAccessExpression => "ARRAY_ACCESS_EXPRESSION"
  | assignmentExpression => "ASSIGNMENT_EXPRESSION"
  | binaryExpression => "BINARY_EXPRESSION"
  | polyadicExpression => "POLYADIC_EXPRESSION"
  | conditionalExpression => "CONDITIONAL_EXPRESSION"
  | prefixExpression => "PREFIX_EXPRESSION"
  | postfixExpression => "POSTFIX_EXPRESSION"
  | typeCastExpression => "TYPE_CAST_EXPRESSION"
  | instanceOfExpression => "INSTANCE_OF_EXPRESSION"
  | parenthExpression => "PARENTH_EXPRESSION"
  | literalExpression => "LITERAL_EXPRESSION"
  | referenceExpression => "REFERENCE_EXPRESSION"
  | methodCallExpression => "METHOD_CALL_EXPRESSION"
  | expressionList => "EXPRESSION_LIST"
  | newExpression => "NEW_EXPRESSION"
  | thisExpression => "THIS_EXPRESSION"
  | superExpression => "SUPER_EXPRESSION"
  | classObjectAccessExpression => "CLASS_OBJECT_ACCESS_EXPRESSION"
  | lambdaExpression => "LAMBDA_EXPRESSION"
  | methodReferenceExpression => "METHOD_REFERENCE_EXPRESSION"
  | switchExpression => "SWITCH_EXPRESSION"

/-- All kinds of constructs, in published order. -/
def all : List ConstructKind := [
    javaFile, packageStatement, importList, importStatement, classDeclaration, classInitializer,
    enumConstant, field, method, modifierList, annotationUse, annotationParameterList,
    nameValuePair, typeUse, typeParameterList, typeParameter, referenceParameterList,
    javaCodeReference, parameterList, parameter, throwsList, codeBlock, blockStatement,
    declarationStatement, localVariable, expressionStatement, expressionListStatement,
    emptyStatement, returnStatement, throwStatement, yieldStatement, ifStatement, whileStatement,
    doWhileStatement, forStatement, foreachStatement, switchStatement, switchLabelStatement,
    breakStatement, continueStatement, tryStatement, catchSection, synchronizedStatement,
    assertStatement, labeledStatement, arrayInitializerExpression, arrayAccessExpression,
    assignmentExpression, binaryExpression, polyadicExpression, conditionalExpression,
    prefixExpression, postfixExpression, typeCastExpression, instanceOfExpression,
    parenthExpression, literalExpression, referenceExpression, methodCallExpression,
    expressionList, newExpression, thisExpression, superExpression, classObjectAccessExpression,
    lambdaExpression, methodReferenceExpression, switchExpression]

/-- The names of all kinds of constructs. -/
def directory : List (Text × ConstructKind) :=
  all.map fun k => (k.name, k)

/-- The kind with the given name. -/
def ofName? (name : Text) : Option ConstructKind :=
  directory.lookup name

end ConstructKind

end JavaText
