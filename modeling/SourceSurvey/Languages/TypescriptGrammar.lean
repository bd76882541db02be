import SourceSurvey.Languages.EcmascriptGrammar

/-! The grammars of TypeScript: the plain one, and the one with elements in place of type assertions. -/

namespace SourceSurvey.Languages

open Grammar

/-- What both have in common. -/
def typedGrammar : Grammar :=
  { ecmascriptGrammar with
    rules := revise ecmascriptGrammar.rules (Reader.rules r#"
    public_field_definition = @role(decorator)*
      ('declare' accessibility_modifier? | accessibility_modifier 'declare'?)?
      ('static'? override_modifier? 'readonly'? | 'abstract'? 'readonly'?
        | 'readonly'? 'abstract'? | 'accessor'?)
      _property_name ('?' | '!')? type_annotation? _initializer?;
    catch_clause = 'catch' ('(' (identifier | _destructuring_pattern) type_annotation? ')')?
      statement_block;
    call_expression = @prec(call, (expression | import) type_arguments? arguments)
      | @prec(template_call, (primary_expression | new_expression) template_string)
      | @prec(member, primary_expression '?.' type_arguments? arguments);
    new_expression = @right(new, 'new' primary_expression type_arguments? arguments?);
    assignment_expression = @right(assign,
      'using'? (parenthesized_expression | _lhs_expression) '=' expression);
    _augmented_assignment_lhs = member_expression | subscript_expression
      | @alias(_reserved_identifier, identifier) | identifier | parenthesized_expression
      | non_null_expression;
    _lhs_expression = member_expression | subscript_expression | _identifier
      | @alias(_reserved_identifier, identifier) | _destructuring_pattern
      | non_null_expression;
    primary_expression = subscript_expression | member_expression | parenthesized_expression
      | _identifier | @alias(_reserved_identifier, identifier) | this | super | number | string
      | template_string | regex | true | false | null | object | array | function_expression
      | arrow_function | generator_function | class | meta_property | call_expression
      | non_null_expression;
    _jsx_start_opening_element = '<' ((_jsx_identifier | jsx_namespace_name
      | (identifier | @alias(nested_identifier, member_expression)) type_arguments?)
      @role(_jsx_attribute)*)?;
    jsx_opening_element = @weight(-1, _jsx_start_opening_element '>');
    jsx_self_closing_element = @weight(-1, _jsx_start_opening_element '/>');
    export_specifier = ('type' | 'typeof')? _module_export_name ('as' _module_export_name)?;
    _import_identifier = identifier | @alias('type', identifier);
    import_specifier = ('type' | 'typeof')? (_import_identifier
      | (_module_export_name | @alias('type', identifier)) 'as' _import_identifier);
    import_clause = namespace_import | named_imports
      | _import_identifier (',' (namespace_import | named_imports))?;
    import_statement = 'import' ('type' | 'typeof')?
      (import_clause _from_clause | import_require_clause | string) import_attribute?
      _semicolon;
    export_statement =
      'export' ('*' _from_clause | namespace_export _from_clause | export_clause _from_clause
        | export_clause) _semicolon
      | @role(decorator)* 'export' (declaration | 'default' (declaration | expression _semicolon))
      | 'export' 'type' export_clause _from_clause? _semicolon
      | 'export' 'import' import_alias
      | 'export' '=' expression _semicolon
      | 'export' 'as' 'namespace' identifier _semicolon;
    non_null_expression = @left(unary, expression '!');
    variable_declarator = (identifier | _destructuring_pattern) type_annotation? _initializer?
      | @prec(declare, identifier '!' type_annotation);
    method_signature = accessibility_modifier? 'static'? override_modifier? 'readonly'? 'async'?
      ('get' | 'set' | '*')? _property_name '?'? _call_signature;
    abstract_method_signature = accessibility_modifier? 'abstract' override_modifier?
      ('get' | 'set' | '*')? _property_name '?'? _call_signature;
    parenthesized_expression = '(' (expression type_annotation? | sequence_expression) ')';
    _formal_parameter = required_parameter | optional_parameter;
    function_signature = 'async'? 'function' identifier _call_signature
      (_semicolon | _function_signature_automatic_semicolon);
    decorator = '@' (identifier | @alias(decorator_member_expression, member_expression)
      | @alias(decorator_call_expression, call_expression)
      | @alias(decorator_parenthesized_expression, parenthesized_expression));
    decorator_call_expression = @prec(call,
      (identifier | @alias(decorator_member_expression, member_expression)) type_arguments?
      arguments);
    decorator_parenthesized_expression = '(' (identifier
      | @alias(decorator_member_expression, member_expression)
      | @alias(decorator_call_expression, call_expression)) ')';
    class_body = '{' (@role(decorator)* method_definition _semicolon?
      | method_signature (_function_signature_automatic_semicolon | ',')
      | class_static_block
      | (abstract_method_signature | index_signature | method_signature
        | public_field_definition) (_semicolon | ',')
      | ';')* '}';
    method_definition = @left(accessibility_modifier? 'static'? override_modifier? 'readonly'?
      'async'? ('get' | 'set' | '*')? _property_name '?'? _call_signature statement_block);
    declaration = function_declaration | generator_function_declaration | class_declaration
      | lexical_declaration | variable_declaration | function_signature
      | abstract_class_declaration | module | @prec(declare, internal_module)
      | type_alias_declaration | enum_declaration | interface_declaration | import_alias
      | ambient_declaration;
    type_assertion = @left(unary, type_arguments expression);
    as_expression = @left(binary, expression 'as' ('const' | type));
    satisfies_expression = @left(binary, expression 'satisfies' type);
    instantiation_expression = @prec(instantiation, expression type_arguments);
    class_heritage = extends_clause implements_clause? | implements_clause;
    import_require_clause = identifier '=' 'require' '(' string ')';
    extends_clause = 'extends' @commas(_extends_clause_single);
    _extends_clause_single = @prec(extends, @role(expression) @role(type_arguments)?);
    implements_clause = 'implements' @commas(type);
    ambient_declaration = 'declare' (declaration | 'global' statement_block
      | 'module' '.' @alias(identifier, property_identifier) ':' type _semicolon);
    class = @prec(literal, @role(decorator)* 'class' _type_identifier? type_parameters?
      class_heritage? class_body);
    abstract_class_declaration = @prec(declare, @role(decorator)* 'abstract' 'class' _type_identifier
      type_parameters? class_heritage? class_body);
    class_declaration = @left(declare, @role(decorator)* 'class' _type_identifier type_parameters?
      class_heritage? class_body _automatic_semicolon?);
    module = 'module' _module;
    internal_module = 'namespace' _module;
    _module = @right((string | identifier | nested_identifier) statement_block?);
    import_alias = 'import' identifier '=' (identifier | nested_identifier) _semicolon;
    nested_type_identifier =
      @prec(member, (identifier | nested_identifier) '.' _type_identifier);
    interface_declaration = @prec(declare, 'interface' _type_identifier type_parameters?
      extends_type_clause? @alias(object_type, interface_body));
    extends_type_clause =
      'extends' @commas(_type_identifier | nested_type_identifier | generic_type);
    enum_declaration = @prec(declare, 'const'? 'enum' identifier enum_body);
    enum_body = '{' (@commas(_property_name | enum_assignment) ','?)? '}';
    enum_assignment = _property_name _initializer;
    type_alias_declaration =
      @prec(declare, 'type' _type_identifier type_parameters? '=' type _semicolon);
    accessibility_modifier = 'public' | 'private' | 'protected';
    override_modifier = 'override';
    required_parameter = _parameter_name type_annotation? _initializer?;
    optional_parameter = _parameter_name '?' type_annotation? _initializer?;
    _parameter_name = @role(decorator)* accessibility_modifier? override_modifier? 'readonly'?
      @role(pattern | this);
    omitting_type_annotation = '-?:' type;
    adding_type_annotation = '+?:' type;
    opting_type_annotation = '?:' type;
    type_annotation = ':' (type
      | @alias(_type_query_member_expression_in_type_annotation, member_expression)
      | @alias(_type_query_call_expression_in_type_annotation, call_expression));
    _type_query_member_expression_in_type_annotation = (import
      | @alias(_type_query_member_expression_in_type_annotation, member_expression)
      | @alias(_type_query_call_expression_in_type_annotation, call_expression)) '.'
      (private_property_identifier | @alias(identifier, property_identifier));
    _type_query_call_expression_in_type_annotation = (import
      | @alias(_type_query_member_expression_in_type_annotation, member_expression)) arguments;
    asserts = 'asserts' (type_predicate | identifier | this);
    asserts_annotation = ':' asserts;
    type = primary_type | function_type | readonly_type | constructor_type | infer_type
      | @prec(-1, @alias(_type_query_member_expression_in_type_annotation, member_expression))
      | @prec(-1, @alias(_type_query_call_expression_in_type_annotation, call_expression));
    tuple_parameter = (identifier | rest_pattern) type_annotation;
    optional_tuple_parameter = identifier '?' type_annotation;
    optional_type = type '?';
    rest_type = '...' type;
    _tuple_type_member = @alias(tuple_parameter, required_parameter)
      | @alias(optional_tuple_parameter, optional_parameter) | optional_type | rest_type | type;
    constructor_type = @left('abstract'? 'new' type_parameters? formal_parameters '=>' type);
    primary_type = parenthesized_type | predefined_type | _type_identifier
      | nested_type_identifier | generic_type | object_type | array_type | tuple_type
      | flow_maybe_type | type_query | index_type_query | @alias(this, this_type)
      | existential_type | literal_type | lookup_type | conditional_type
      | template_literal_type | intersection_type | union_type | 'const';
    template_type = '${' (primary_type | infer_type) '}';
    template_literal_type =
      '`' (@alias(_template_chars, string_fragment) | template_type)* '`';
    infer_type = @right('infer' _type_identifier ('extends' type)?);
    conditional_type = @right(type 'extends' type '?' type ':' type);
    generic_type = @prec(call, (_type_identifier | nested_type_identifier) type_arguments);
    type_predicate = (identifier | this | @alias(predefined_type, identifier)) 'is' type;
    type_predicate_annotation = ':' type_predicate;
    _type_query_member_expression = (identifier | this
      | @alias(_type_query_subscript_expression, subscript_expression)
      | @alias(_type_query_member_expression, member_expression)
      | @alias(_type_query_call_expression, call_expression)) ('.' | '?.')
      (private_property_identifier | @alias(identifier, property_identifier));
    _type_query_subscript_expression = (identifier | this
      | @alias(_type_query_subscript_expression, subscript_expression)
      | @alias(_type_query_member_expression, member_expression)
      | @alias(_type_query_call_expression, call_expression)) '?.'?
      '[' (predefined_type | string | number) ']';
    _type_query_call_expression = (import | identifier
      | @alias(_type_query_member_expression, member_expression)
      | @alias(_type_query_subscript_expression, subscript_expression)) arguments;
    _type_query_instantiation_expression = (import | identifier
      | @alias(_type_query_member_expression, member_expression)
      | @alias(_type_query_subscript_expression, subscript_expression)) type_arguments;
    type_query = @right('typeof' (@alias(_type_query_subscript_expression, subscript_expression)
      | @alias(_type_query_member_expression, member_expression)
      | @alias(_type_query_call_expression, call_expression)
      | @alias(_type_query_instantiation_expression, instantiation_expression)
      | identifier | this));
    index_type_query = 'keyof' primary_type;
    lookup_type = primary_type '[' type ']';
    mapped_type_clause = _type_identifier 'in' type ('as' type)?;
    literal_type = @alias(_number, unary_expression) | number | string | true | false | null
      | undefined;
    _number = @left(1, ('-' | '+') number);
    existential_type = '*';
    flow_maybe_type = @right('?' primary_type);
    parenthesized_type = '(' type ')';
    predefined_type = 'any' | 'number' | 'boolean' | 'string' | 'symbol'
      | @alias('unique' 'symbol', 'unique symbol') | 'void' | 'unknown' | 'string' | 'never'
      | 'object';
    type_arguments = '<' @commas(type) ','? '>';
    object_type = ('{' | '{|') ((',' | ';')?
      (export_statement | property_signature | call_signature | construct_signature
        | index_signature | method_signature)
      ((',' | _semicolon) (export_statement | property_signature | call_signature
        | construct_signature | index_signature | method_signature))*
      (',' | _semicolon)?)? ('}' | '|}');
    call_signature = _call_signature;
    property_signature = accessibility_modifier? 'static'? override_modifier? 'readonly'?
      _property_name '?'? type_annotation?;
    _call_signature = type_parameters? formal_parameters
      (type_annotation | asserts_annotation | type_predicate_annotation)?;
    type_parameters = '<' @commas(type_parameter) ','? '>';
    type_parameter = 'const'? _type_identifier constraint? default_type?;
    default_type = '=' type;
    constraint = ('extends' | ':') type;
    construct_signature = 'abstract'? 'new' type_parameters? formal_parameters type_annotation?;
    index_signature = (('-' | '+')? 'readonly')?
      '[' ((identifier | @alias(_reserved_identifier, identifier)) ':' type
        | mapped_type_clause) ']'
      (type_annotation | omitting_type_annotation | adding_type_annotation
        | opting_type_annotation);
    array_type = primary_type '[' ']';
    tuple_type = '[' @commas(_tuple_type_member)? ','? ']';
    readonly_type = 'readonly' type;
    union_type = @left(type? '|' type);
    intersection_type = @left(type? '&' type);
    function_type =
      @left(type_parameters? formal_parameters '=>' (type | asserts | type_predicate));
    _type_identifier = @alias(identifier, type_identifier);
    _reserved_identifier = 'declare' | 'namespace' | 'type' | 'public' | 'private' | 'protected'
      | 'override' | 'readonly' | 'module' | 'any' | 'number' | 'boolean' | 'string' | 'symbol'
      | 'export' | 'object' | 'new' | 'get' | 'set' | 'async' | 'static' | 'let';
    "#)
    externals := ecmascriptGrammar.externals ++
      ruleList "_function_signature_automatic_semicolon __error_recovery"
    inlined := (ecmascriptGrammar.inlined.filter fun name ↦
        name ≠ "_formal_parameter" && name ≠ "_call_signature") ++
      nameList "_type_identifier _jsx_start_opening_element"
    supertypes := ecmascriptGrammar.supertypes ++ nameList "type primary_type"
    ranks := ecmascriptGrammar.ranks ++ [
    rankList "'call' 'instantiation' 'unary' 'binary' await_expression arrow_function",
    rankList "'extends' 'instantiation'",
    rankList "intersection_type union_type conditional_type function_type 'binary' type_predicate
      readonly_type",
    rankList "mapped_type_clause primary_expression",
    rankList "accessibility_modifier primary_expression",
    rankList "'unary_void' expression",
    rankList "extends_clause primary_expression",
    rankList "'unary' 'assign'",
    rankList "'declare' expression",
    rankList "predefined_type unary_expression",
    rankList "type flow_maybe_type",
    rankList "tuple_type array_type pattern type",
    rankList "readonly_type pattern",
    rankList "readonly_type primary_expression",
    rankList "type_query subscript_expression expression",
    rankList "type_query _type_query_subscript_expression",
    rankList "nested_type_identifier generic_type primary_type lookup_type index_type_query type",
    rankList "as_expression satisfies_expression primary_type",
    rankList "_type_query_member_expression member_expression",
    rankList "member_expression _type_query_member_expression_in_type_annotation",
    rankList "_type_query_member_expression primary_expression",
    rankList "_type_query_subscript_expression subscript_expression",
    rankList "_type_query_subscript_expression primary_expression",
    rankList "_type_query_call_expression primary_expression",
    rankList "_type_query_instantiation_expression primary_expression",
    rankList "type_query primary_expression",
    rankList "override_modifier primary_expression",
    rankList "decorator_call_expression decorator",
    rankList "literal_type pattern",
    rankList "predefined_type pattern",
    rankList "call_expression _type_query_call_expression",
    rankList "call_expression _type_query_call_expression_in_type_annotation",
    rankList "new_expression primary_expression",
    rankList "meta_property primary_expression",
    rankList "construct_signature _property_name"] }

def typescriptGrammar : Grammar :=
  { typedGrammar with
    rules := revise typedGrammar.rules (Reader.rules r#"
    expression = as_expression | satisfies_expression | instantiation_expression
      | internal_module | type_assertion | primary_expression | assignment_expression
      | augmented_assignment_expression | await_expression | unary_expression
      | binary_expression | ternary_expression | update_expression | new_expression
      | yield_expression;
    "#) }

def tsxGrammar : Grammar :=
  { typedGrammar with
    rules := revise typedGrammar.rules (Reader.rules r#"
    expression = as_expression | satisfies_expression | instantiation_expression
      | internal_module | primary_expression | _jsx_element | assignment_expression
      | augmented_assignment_expression | await_expression | unary_expression
      | binary_expression | ternary_expression | update_expression | new_expression
      | yield_expression;
    "#) }

end SourceSurvey.Languages
